import StudyPlan.Binary64.Scaled
import StudyPlan.Binary64.Shortest
import StudyPlan.Error

/-!
# Kept values

A value that an archive keeps is nothing, a number or a text, whatever its
column is meant for.

A column for numbers takes a text that spells a number as that number
(`Cell.ofDigits`): a whole number of 64 bits as it is, and any other decimal as
it is read in a hurry (`Binary64.Scaled`).  Blanks around it do not count.  A
number that turns out whole is kept as a whole number.
-/

namespace StudyPlan

/-- A kept value of any type. -/
inductive Cell where
  /-- No value. -/
  | empty
  /-- A whole number. -/
  | int (i : Int)
  /-- A number that is not whole. -/
  | real (x : Binary64)
  /-- A text. -/
  | text (s : String)
deriving DecidableEq, Repr, Inhabited

namespace Cell

/-- A blank around a number. -/
def isPad (c : Char) : Bool := c == ' ' || (decide (9 ≤ c.toNat) && decide (c.toNat ≤ 13))

/-- A whole number of 64 bits. -/
def fitsInt64 (i : Int) : Bool := decide (-0x8000000000000000 ≤ i) && decide (i < 0x8000000000000000)

/-- A number, whole if it can be. -/
def ofNumber (x : Binary64) : Cell :=
  if x.isWhole && x.lt (.ofNat 0x8000000000000000) &&
      (Binary64.ofInt (-0x8000000000000000)).lt x then
    .int x.floorInt64
  else .real x

/-- What a column for numbers keeps of a text: the number that it spells, or
else the text. -/
def ofDigits (s : String) : Cell :=
  let cs := ((s.toList.dropWhile isPad).reverse.dropWhile isPad).reverse
  let (negative, digits) := Binary64.takeSign cs
  let n : Int := Text.digitsValue 0 digits
  let i := if negative then -n else n
  if !digits.isEmpty && digits.all Text.isAsciiDigit && fitsInt64 i then .int i
  else
    match Binary64.Scaled.ofChars? digits with
    | some x => ofNumber (x.toBinary64 negative)
    | none => .text s

/-- What a column for numbers keeps of a value. -/
def inNumberColumn : Cell → Cell
  | .text s => ofDigits s
  | c => c

/-- What a column for texts keeps of a value. -/
def inTextColumn : Cell → Option String
  | .empty => none
  | .int i => some (toString i)
  | .real x => some x.dataText
  | .text s => some s

/-- The place of a number among numbers, in units of the least positive one. -/
def number? : Cell → Option Int
  | .int i => some (i * Binary64.one)
  | .real x => x.rank?
  | _ => none

/-- One value comes before or with another: nothing, then numbers, then texts. -/
def le (a b : Cell) : Bool :=
  match a, b with
  | .empty, _ => true
  | _, .empty => false
  | .text s, .text t => decide (s ≤ t)
  | .text _, _ => false
  | _, .text _ => true
  | a, b =>
    match a.number?, b.number? with
    | some i, some j => decide (i ≤ j)
    | _, _ => true

/-- The natural number of 32 bits that a column of a name and an index keeps. -/
def nat32 (index : Nat) (name : String) : Cell → Except PlanningError Nat
  | .int i =>
    if 0 ≤ i ∧ i < 0x100000000 then .ok i.toNat else .error (.archive (.outOfRange i index))
  | .empty => .error (.archive (.wrongType "Null" index name))
  | .real _ => .error (.archive (.wrongType "Real" index name))
  | .text _ => .error (.archive (.wrongType "Text" index name))

end Cell

end StudyPlan
