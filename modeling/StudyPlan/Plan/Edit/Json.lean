import StudyPlan.Json.Decode
import StudyPlan.Plan.Edit

/-!
# Edits as data

An edit is an object whose field `kind` names it, or a list with the name first
and the other fields in order.  All of its fields have to be readable, and those
that the edit does not know are passed over in an object but not in a list.
-/

namespace StudyPlan

open Json

namespace Edit

/-! ## Reading -/

/-- The fields of an edit besides its name: named ones, or ones by place. -/
inductive Fields where
  /-- Fields by name. -/
  | named (fields : List (String × Json))
  /-- Fields by place. -/
  | placed (items : List Json)

/-- The fields of the listed names; `none` if one is repeated, or if there are
too many by place. -/
def Fields.listed? (names : List String) : Fields → Option (List (String × Json))
  | .named fields =>
    let known := fields.filter (names.contains ·.1)
    if (known.map (·.1)).Nodup then some known else none
  | .placed items => if names.length < items.length then none else some (names.zip items)

/-- A natural number up to a bound. -/
def nat? (high : Nat) : Json → Option Nat
  | .int i => if 0 ≤ i ∧ i ≤ high then some i.toNat else none
  | _ => none

/-- A text. -/
def text? : Json → Option String
  | .text s => some s
  | _ => none

/-- The number of the planned course that an edit is about. -/
def plannedId? (fields : List (String × Json)) : Option Nat :=
  (fields.lookup "plannedCourseId").bind (nat? Document.max64)

/-- The edit of a name with its fields. -/
def ofFields? (kind : String) (fields : Fields) : Option Edit :=
  if kind = "moveCourse" then do
    let fields ← fields.listed? ["plannedCourseId", "term", "index"]
    let id ← plannedId? fields
    let term ← (fields.lookup "term").bind (nat? Document.max32)
    let index ←
      match fields.lookup "index" with
      | none => some 0
      | some v => nat? Document.max64 v
    return .move id term index
  else if kind = "substituteElective" then do
    let fields ← fields.listed? ["plannedCourseId", "courseId"]
    let id ← plannedId? fields
    let courseId ← (fields.lookup "courseId").bind text?
    return .substitute id courseId
  else if kind = "resetElective" then do
    let fields ← fields.listed? ["plannedCourseId"]
    return .reset (← plannedId? fields)
  else if kind = "addYear" then (fields.listed? []).map fun _ => .addYear
  else if kind = "removeYear" then do
    let fields ← fields.listed? ["year"]
    return .removeYear (← (fields.lookup "year").bind (nat? Document.max32))
  else if kind = "rename" then do
    let fields ← fields.listed? ["title"]
    return .rename (← (fields.lookup "title").bind text?)
  else if kind = "enforceOrdering" then (fields.listed? []).map fun _ => .enforceOrder
  else none

/-- The name of an edit and its other fields: the name once, and every other
field readable. -/
def splitKind? (depth : Nat) :
    List (Option String × Document) → Option (Option String × List (String × Json))
  | [] => some (none, [])
  | (key, d) :: rest =>
    match key, splitKind? depth rest with
    | some key, some (kind, fields) =>
      if key = "kind" then
        match d, kind with
        | .text (some s), none => some (some s, fields)
        | _, _ => none
      else (d.value? depth).map fun v => (kind, (key, v) :: fields)
    | _, _ => none

/-- The edit that a document spells. -/
def decode? : Nat → Document → Option Edit
  | depth + 1, .object parts =>
    match splitKind? depth parts with
    | some (some kind, fields) => ofFields? kind (.named fields)
    | _ => none
  | depth + 1, .array (.text (some kind) :: items) =>
    (Document.values? depth items).bind fun vs => ofFields? kind (.placed vs)
  | _, _ => none

/-- The edit that a data text spells. -/
def ofText? (s : String) : Option Edit := (Document.ofText? s).bind (decode? nesting)

/-! ## Writing -/

/-- The edit as data, with every field. -/
def toJson : Edit → Json
  | .move id term index =>
    .object [("kind", .text "moveCourse"), ("plannedCourseId", .nat id), ("term", .nat term),
      ("index", .nat index)]
  | .substitute id courseId =>
    .object [("kind", .text "substituteElective"), ("plannedCourseId", .nat id),
      ("courseId", .text courseId)]
  | .reset id => .object [("kind", .text "resetElective"), ("plannedCourseId", .nat id)]
  | .addYear => .object [("kind", .text "addYear")]
  | .removeYear year => .object [("kind", .text "removeYear"), ("year", .nat year)]
  | .rename title => .object [("kind", .text "rename"), ("title", .text title)]
  | .enforceOrder => .object [("kind", .text "enforceOrdering")]

end Edit

end StudyPlan
