import StudyPlan.Binary64.Extended
import StudyPlan.Binary64.Read

/-!
# Decimals read in a hurry

A decimal is read as a number of at most 63 bits and a power of ten.  Digits are
gathered while there is room for one more.  Of those left over, the ones before
the point scale the number by ten and the ones after it are dropped.  An
exponent of more than five digits counts as ten thousand.

Then as much of the power of ten as possible goes into the digits: they are
multiplied while there is room, or divided while they end in zero (`spread`).
What remains of the power scales them with 64 binary digits (`Extended`), and
past the 307th power in two steps, the second with 53.  From the 342nd power on
the outcome is infinite or zero.

So a decimal of few digits gives the nearest number, and another may give one
beside it.  The grammar is that of `Binary64.read?`, without the words.
-/

namespace StudyPlan

namespace Binary64

open Text (isAsciiDigit digitsValue)

/-- A number `digits · 10 ^ exponent`. -/
structure Scaled where
  /-- The digits. -/
  digits : Nat
  /-- The exponent. -/
  exponent : Int
deriving DecidableEq, Repr, Inhabited

namespace Scaled

/-! ## Gathering -/

/-- A number below this has room for any digit more. -/
def room : Nat := (0x8000000000000000 - 10) / 10

/-- The number with one more digit before the point. -/
def pushWhole (x : Scaled) (c : Char) : Scaled :=
  if x.digits < room then { x with digits := digitsValue x.digits [c] }
  else { x with exponent := x.exponent + 1 }

/-- The number with one more digit after the point. -/
def pushFraction (x : Scaled) (c : Char) : Scaled :=
  if x.digits < room then ⟨digitsValue x.digits [c], x.exponent - 1⟩ else x

/-- The exponent that a written one counts as. -/
def countedExponent (e : Int) : Int := if e.natAbs < 100000 then e else e.sign * 10000

/-- The number that an unsigned decimal spells. -/
def ofChars? (cs : List Char) : Option Scaled :=
  let whole := cs.takeWhile isAsciiDigit
  let (fraction, rest) := takeFraction (cs.dropWhile isAsciiDigit)
  if whole.isEmpty ∧ fraction.isEmpty then none
  else
    (readExponent? rest).map fun e =>
      let x := fraction.foldl pushFraction (whole.foldl pushWhole ⟨0, 0⟩)
      { x with exponent := x.exponent + countedExponent e }

/-! ## Scaling -/

/-- A number below this may be multiplied by ten. -/
def top : Nat := 0x7FFFFFFFFFFFFFFF / 10

/-- Some digits times a power of ten, with the power as small as there is room for. -/
def raise : (exponent digits : Nat) → Scaled
  | 0, digits => ⟨digits, 0⟩
  | e + 1, digits => if digits < top then raise e (10 * digits) else ⟨digits, e + 1⟩

/-- Some digits over a power of ten, with no zero at the end unless the power is one. -/
def lower : (exponent digits : Nat) → Scaled
  | 0, digits => ⟨digits, 0⟩
  | e + 1, digits => if digits % 10 = 0 then lower e (digits / 10) else ⟨digits, -(e + 1)⟩

/-- The same number with as little exponent as possible. -/
def spread (x : Scaled) : Scaled :=
  if 0 ≤ x.exponent then raise x.exponent.toNat x.digits
  else lower (-x.exponent).toNat x.digits

/-- A number times a power of ten, or divided by it, with 64 binary digits. -/
def scale (up : Bool) (negative : Bool) (digits power : Nat) : Binary64 :=
  let x := Extended.ofNat digits
  (if up then x.mul (.tenTo power) else x.div (.tenTo power)).toBinary64 negative

/-- The largest power of ten below the largest binary64 number. -/
def far : Nat := 308

/-- The binary64 number that a decimal counts as. -/
def toBinary64 (negative : Bool) (x : Scaled) : Binary64 :=
  let y := x.spread
  let up := decide (0 ≤ y.exponent)
  let power := y.exponent.natAbs
  if x.digits = 0 then .finite negative 0
  else if power < far then scale up negative y.digits power
  else if power < far + 34 then
    let part := scale up negative y.digits (power - far)
    if up then part.mul (.ofNat (Nat.pow 10 far)) else part.div (.ofNat (Nat.pow 10 far))
  else if up then .infinite negative
  else .finite negative 0

/-- Just above the middle of two neighbours a decimal may count as the lower one. -/
example : (ofChars? "1.00000000000000011102230246251566".toList).map (toBinary64 false) =
    some (.ofNat 1) := by decide +kernel

example : (ofChars? "9.000000000000000001e-324".toList).map (toBinary64 true) =
    some (.finite true 0) := by decide +kernel

end Scaled

end Binary64

end StudyPlan
