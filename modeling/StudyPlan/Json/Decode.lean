import StudyPlan.Json.Document

/-!
# Decoding documents

A decoder gives a document, or a part of one, a value of a type.  It checks what
it uses and nothing else: a field that no decoder asks for may hold anything.

Lists and objects that are decoded may nest 127 deep.  A decoder is told how
many levels are left (`depth`), and entering a list or an object takes one.

* A name of an enumeration is the text, or an object with the name as its one
  field, which is null.
* A record is an object with its fields under their names, each at most once, or
  a list of its fields in order, where fields at the end may be missing.
* `Document.value?` decodes a part as a data value.  The fields of an object are
  then sorted by name, and of several fields of one name the last one stays.
-/

namespace StudyPlan

namespace Json

/-- How deep lists and objects may nest. -/
def nesting : Nat := 127

/-! ## Fields sorted by name -/

/-- A field put in its place among fields sorted by name, instead of one of the
same name. -/
def putSorted (key : String) (v : Json) : List (String × Json) → List (String × Json)
  | [] => [(key, v)]
  | (k, w) :: rest =>
    if key = k then (key, v) :: rest
    else if key < k then (key, v) :: (k, w) :: rest
    else (k, w) :: putSorted key v rest

/-- Fields sorted by name, the last of each name. -/
def sortFields (fields : List (String × Json)) : List (String × Json) :=
  fields.foldl (fun sorted f => putSorted f.1 f.2 sorted) []

namespace Document

/-! ## Plain values -/

mutual

/-- The part as a data value. -/
def value? (depth : Nat) : Document → Option Json
  | .null => some .null
  | .bool b => some (.bool b)
  | .number n => n.value?
  | .text s => s.map .text
  | .array items =>
    match depth with
    | 0 => none
    | depth + 1 => (values? depth items).map .array
  | .object fields =>
    match depth with
    | 0 => none
    | depth + 1 => (fieldValues? depth fields).map fun fs => .object (sortFields fs)

/-- The items as data values. -/
def values? (depth : Nat) : List Document → Option (List Json)
  | [] => some []
  | d :: ds =>
    match value? depth d, values? depth ds with
    | some v, some vs => some (v :: vs)
    | _, _ => none

/-- The fields as named data values. -/
def fieldValues? (depth : Nat) : List (Option String × Document) → Option (List (String × Json))
  | [] => some []
  | (k, d) :: ds =>
    match k, value? depth d, fieldValues? depth ds with
    | some k, some v, some vs => some ((k, v) :: vs)
    | _, _, _ => none

end

/-- A text. -/
def text? : Document → Option String
  | .text s => s
  | _ => none

/-- A truth value. -/
def bool? : Document → Option Bool
  | .bool b => some b
  | _ => none

/-- A whole number of a range. -/
def int? (low high : Int) : Document → Option Int
  | .number n =>
    match n.value? with
    | some (.int i) => if low ≤ i ∧ i ≤ high then some i else none
    | _ => none
  | _ => none

/-- A natural number up to a bound. -/
def nat? (high : Nat) (d : Document) : Option Nat := (d.int? 0 high).map Int.toNat

/-- The largest natural number of 32 bits. -/
def max32 : Nat := UInt32.size - 1

/-- The largest natural number of 64 bits. -/
def max64 : Nat := UInt64.size - 1

/-- An absent value is null. -/
def optional? (f : Document → Option α) : Document → Option (Option α)
  | .null => some none
  | d => (f d).map some

/-- A list, given how its items are decoded one level down. -/
def list? (depth : Nat) (f : Nat → Document → Option α) : Document → Option (List α)
  | .array items =>
    match depth with
    | 0 => none
    | depth + 1 => items.mapM (f depth)
  | _ => none

/-- A name of an enumeration. -/
def name? (depth : Nat) (names : List (String × α)) : Document → Option α
  | .text (some s) => names.lookup s
  | .object [(some k, .null)] => if depth = 0 then none else names.lookup k
  | _ => none

/-! ## Records -/

/-- The fields of a record that are there, by name. -/
abbrev Fields := List (String × Document)

/-- The fields of an object whose names are listed; `none` if one of them is
repeated, or if any name is ill formed. -/
def listedFields? (names : List String) : List (Option String × Document) → Option Fields
  | [] => some []
  | (key, d) :: rest =>
    match key, listedFields? names rest with
    | some k, some fields =>
      if names.contains k then
        if (fields.lookup k).isSome then none else some ((k, d) :: fields)
      else some fields
    | _, _ => none

/-- The fields of a record one level down: from an object by name, or from a
list by place. -/
def record? (depth : Nat) (names : List String) : Document → Option Fields
  | .object fields => if depth = 0 then none else listedFields? names fields
  | .array items =>
    if depth = 0 ∨ names.length < items.length then none else some (names.zip items)
  | _ => none

/-- A field that has to be there. -/
def Fields.required? (fields : Fields) (key : String) (f : Document → Option α) : Option α :=
  (fields.lookup key).bind f

/-- A field with a value for when it is not there. -/
def Fields.withDefault? (fields : Fields) (key : String) (default : α) (f : Document → Option α) :
    Option α :=
  match fields.lookup key with
  | some d => f d
  | none => some default

/-- A field that is absent when it is not there or null. -/
def Fields.optional? (fields : Fields) (key : String) (f : Document → Option α) :
    Option (Option α) :=
  fields.withDefault? key none (Document.optional? f)

end Document

/-- The data value that a text spells. -/
def parse? (s : String) : Option Json := (Document.ofText? s).bind (·.value? nesting)

end Json

end StudyPlan
