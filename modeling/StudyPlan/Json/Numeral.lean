import StudyPlan.Binary64.Read
import StudyPlan.Json.Basic

/-!
# Numbers as they are written

A *numeral* is a number of a data text before it is given a value: a sign,
digits, and perhaps digits after a point and an exponent.  Without point and
exponent it is a whole number if 64 bits hold it.  Every other numeral, and
minus zero, is a binary64 number.

Its value is found in two steps, each rounded.  The digits are gathered while 64
bits hold them; of those left over, the ones before the point scale the value by
ten and the ones after it are dropped.  What was gathered is rounded, and then
multiplied with or divided by a rounded power of ten.  So a long numeral may
miss the nearest number by a little.  A value past the largest number is
refused.
-/

namespace StudyPlan

namespace Json

open Text (digitsValue)

/-- A number as it is written. -/
structure Numeral where
  /-- A minus sign stands in front. -/
  negative : Bool
  /-- The digits before the point. -/
  whole : List Char
  /-- The digits after the point; none if there is no point. -/
  fraction : List Char
  /-- The sign and the digits of the exponent. -/
  exponent : Option (Bool × List Char)
deriving Repr, DecidableEq

/-- The first number that 64 bits do not hold. -/
def word : Nat := UInt64.size

/-- The digits gathered while 64 bits hold them, and how many are left over. -/
def gatherWhole (acc : Nat) : List Char → Nat × Nat
  | [] => (acc, 0)
  | c :: cs =>
    let next := digitsValue acc [c]
    if next < word then gatherWhole next cs else (acc, cs.length + 1)

/-- The digits gathered while 64 bits hold them, and how many were taken. -/
def gatherFraction (acc : Nat) : List Char → Nat × Nat
  | [] => (acc, 0)
  | c :: cs =>
    let next := digitsValue acc [c]
    if next < word then
      let (total, taken) := gatherFraction next cs
      (total, taken + 1)
    else (acc, 0)

/-- A rounded power of ten. -/
def powerOfTen (k : Nat) : Binary64 := Binary64.ofNat (Nat.pow 10 k)

/-- Gathered digits scaled by a power of ten; `none` past the largest number.
Below 10⁻³⁰⁸ the division is done in two steps, and after two of them nothing is
left. -/
def scaled (digits : Nat) (exponent : Int) : Option Binary64 :=
  let x := Binary64.ofNat digits
  if digits = 0 then some (.finite false 0)
  else if 308 < exponent then none
  else if 0 ≤ exponent then
    let y := x.mul (powerOfTen exponent.toNat)
    if y.isInfinite then none else some y
  else if -308 ≤ exponent then some (x.div (powerOfTen (-exponent).toNat))
  else if -616 ≤ exponent then
    some ((x.div (powerOfTen 308)).div (powerOfTen (-exponent - 308).toNat))
  else some (.finite false 0)

/-- The value of the exponent. -/
def Numeral.scale (n : Numeral) : Int :=
  match n.exponent with
  | none => 0
  | some (negative, ds) => if negative then -(digitsValue 0 ds : Int) else digitsValue 0 ds

/-- The binary64 value of a numeral, if there is one. -/
def Numeral.float? (n : Numeral) : Option Binary64 :=
  let (whole, extra) := gatherWhole 0 n.whole
  let (digits, taken) := gatherFraction whole n.fraction
  (scaled digits (extra - taken + n.scale)).map fun x => if n.negative then x.neg else x

/-- The value of a numeral, if there is one. -/
def Numeral.value? (n : Numeral) : Option Json :=
  let plain := n.fraction.isEmpty && n.exponent.isNone
  let i := digitsValue 0 n.whole
  if plain && !n.negative && decide (i < word) then some (.int i)
  else if plain && n.negative && decide (i ≠ 0) && decide (i ≤ 0x8000000000000000) then some (.int (-i))
  else n.float?.map .float

end Json

end StudyPlan
