import StudyPlan.Binary64
import StudyPlan.Text.Digit

/-!
# Reading a decimal

The text of a number: an optional sign, then `inf`, `infinity` or `nan` in any
case of letters, or digits with an optional point, at least one digit in all,
and an optional exponent with an optional sign and at least one digit.  Nothing
else may stand in the text.  The value is the number nearest to the decimal,
rounded once.
-/

namespace StudyPlan

namespace Binary64

open Text (isAsciiDigit digitsValue)

/-- The number nearest to `digits · 10 ^ exponent`.  Far outside the format's
range the answer is known without the power. -/
def ofDecimal (negative : Bool) (digits : Nat) (exponent : Int) : Binary64 :=
  let size := exponent + (Nat.toDigits 10 digits).length
  if digits = 0 then .finite negative 0
  else if 400 < size then .infinite negative
  else if size < -400 then .finite negative 0
  else if 0 ≤ exponent then ofRatio negative (digits * Nat.pow 10 exponent.toNat) 1
  else ofRatio negative digits (Nat.pow 10 (-exponent).toNat)

/-- A sign at the front, if there is one, and the rest. -/
def takeSign : List Char → Bool × List Char
  | '-' :: cs => (true, cs)
  | '+' :: cs => (false, cs)
  | cs => (false, cs)

/-- The exponent that a text ends with: `e` or `E`, a sign and digits.  No text
is the exponent 0. -/
def readExponent? : List Char → Option Int
  | [] => some 0
  | c :: cs =>
    if c = 'e' ∨ c = 'E' then
      let (negative, ds) := takeSign cs
      if ds.isEmpty ∨ !ds.all isAsciiDigit then none
      else some (if negative then -(digitsValue 0 ds : Int) else digitsValue 0 ds)
    else none

/-- The digits after a point, if a point stands in front, and the rest. -/
def takeFraction : List Char → List Char × List Char
  | '.' :: cs => (cs.takeWhile isAsciiDigit, cs.dropWhile isAsciiDigit)
  | cs => ([], cs)

/-- The value of an unsigned decimal. -/
def readMagnitude? (negative : Bool) (cs : List Char) : Option Binary64 :=
  let whole := cs.takeWhile isAsciiDigit
  let (fraction, rest) := takeFraction (cs.dropWhile isAsciiDigit)
  if whole.isEmpty ∧ fraction.isEmpty then none
  else
    (readExponent? rest).map fun e =>
      ofDecimal negative (digitsValue (digitsValue 0 whole) fraction) (e - fraction.length)

/-- The number that a text spells. -/
def read? (s : String) : Option Binary64 :=
  let (negative, cs) := takeSign s.toList
  let word := String.ofList (cs.map Char.toLower)
  if word = "inf" ∨ word = "infinity" then some (.infinite negative)
  else if word = "nan" then some .nan
  else readMagnitude? negative cs

end Binary64

end StudyPlan
