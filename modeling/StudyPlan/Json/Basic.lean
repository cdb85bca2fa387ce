import StudyPlan.Binary64

/-!
# Data values

The values of the JSON data format.  A number is a whole number of 64 bits,
signed or not, or a binary64 number; the two kinds stay apart, so `1` and `1.0`
differ.  The fields of an object are a list of pairs in the order in which they
are written.

Equality is decided by `Json.same`, which walks both values at once.
-/

namespace StudyPlan

/-- A value of the data format. -/
inductive Json where
  /-- No value. -/
  | null
  /-- A truth value. -/
  | bool (b : Bool)
  /-- A whole number. -/
  | int (i : Int)
  /-- A number that is not kept whole. -/
  | float (x : Binary64)
  /-- A text. -/
  | text (s : String)
  /-- A list of values. -/
  | array (items : List Json)
  /-- Named values. -/
  | object (fields : List (String × Json))
deriving Repr, Inhabited

namespace Json

/-! ## Equality -/

mutual

/-- Two values are the same. -/
def same : Json → Json → Bool
  | .null, .null => true
  | .bool a, .bool b => a == b
  | .int a, .int b => a == b
  | .float a, .float b => a == b
  | .text a, .text b => a == b
  | .array a, .array b => sameItems a b
  | .object a, .object b => sameFields a b
  | _, _ => false

/-- Two lists of values are the same. -/
def sameItems : List Json → List Json → Bool
  | [], [] => true
  | a :: as, b :: bs => same a b && sameItems as bs
  | _, _ => false

/-- Two lists of named values are the same. -/
def sameFields : List (String × Json) → List (String × Json) → Bool
  | [], [] => true
  | (k, a) :: as, (l, b) :: bs => k == l && same a b && sameFields as bs
  | _, _ => false

end

mutual

theorem same_iff : (a b : Json) → (same a b = true ↔ a = b)
  | .null, b => by cases b <;> simp [same]
  | .bool x, b => by cases b <;> simp [same]
  | .int x, b => by cases b <;> simp [same]
  | .float x, b => by cases b <;> simp [same]
  | .text x, b => by cases b <;> simp [same]
  | .array xs, b => by
    cases b with
    | array ys => simpa [same] using sameItems_iff xs ys
    | _ => simp [same]
  | .object xs, b => by
    cases b with
    | object ys => simpa [same] using sameFields_iff xs ys
    | _ => simp [same]

theorem sameItems_iff : (as bs : List Json) → (sameItems as bs = true ↔ as = bs)
  | [], bs => by cases bs <;> simp [sameItems]
  | a :: as, bs => by
    cases bs with
    | nil => simp [sameItems]
    | cons b bs => simp [sameItems, same_iff a b, sameItems_iff as bs]

theorem sameFields_iff : (as bs : List (String × Json)) → (sameFields as bs = true ↔ as = bs)
  | [], bs => by cases bs <;> simp [sameFields]
  | (k, a) :: as, bs => by
    cases bs with
    | nil => simp [sameFields]
    | cons b bs =>
      obtain ⟨l, b⟩ := b
      simp [sameFields, same_iff a b, sameFields_iff as bs, and_assoc]

end

instance : DecidableEq Json := fun a b => decidable_of_iff _ (same_iff a b)

/-! ## Building values -/

/-- A natural number. -/
def nat (n : Nat) : Json := .int n

/-- A list of texts. -/
def texts (xs : List String) : Json := .array (xs.map .text)

/-- A list of natural numbers. -/
def nats (xs : List Nat) : Json := .array (xs.map nat)

/-- An optional value, `null` if it is absent. -/
def ofOption (f : α → Json) : Option α → Json
  | none => .null
  | some a => f a

/-- A field that is left out if its value is absent. -/
def optionalField (key : String) (f : α → Json) : Option α → List (String × Json)
  | none => []
  | some a => [(key, f a)]

/-! ## Looking into values -/

/-- The value of a field of an object. -/
def get? (key : String) : Json → Option Json
  | .object fields => fields.lookup key
  | _ => none

end Json

end StudyPlan
