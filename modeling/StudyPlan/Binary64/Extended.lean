import StudyPlan.Binary64

/-!
# Numbers of 64 binary digits

A positive number with a significand of 64 binary digits and any exponent.  It
holds every number of 64 bits, and 11 digits more than a binary64 number.  As
there, an operation is computed exactly and rounded once, a half to the even
significand.

A number that is scaled by a power of ten and then becomes a binary64 number is
rounded twice, and the power of ten itself is a product of rounded squares
(`tenTo`).  The outcome is mostly, but not always, the nearest binary64 number.
-/

namespace StudyPlan

namespace Binary64

/-- A number `significand · 2 ^ exponent`. -/
structure Extended where
  /-- The significand. -/
  significand : Nat
  /-- The exponent. -/
  exponent : Int
deriving DecidableEq, Repr, Inhabited

namespace Extended

/-- The number nearest to a ratio times a power of two.  The ratio is first
multiplied so that its whole part has at least 64 digits, and then as many are
dropped as it has more. -/
def ofRatio (num den : Nat) (exponent : Int) : Extended :=
  let shift := 64 + den.log2
  let scaled := num <<< shift
  let dropped := (scaled / den).log2 - 63
  ⟨roundHalfEven scaled (den <<< dropped), exponent + dropped - shift⟩

/-- The number nearest to a natural number. -/
def ofNat (n : Nat) : Extended := ofRatio n 1 0

/-- The product, rounded once. -/
def mul (x y : Extended) : Extended :=
  ofRatio (x.significand * y.significand) 1 (x.exponent + y.exponent)

/-- The quotient, rounded once. -/
def div (x y : Extended) : Extended :=
  ofRatio x.significand y.significand (x.exponent - y.exponent)

/-- A power of `x` times `r`, by squares of `x`. -/
def power (r x : Extended) (n : Nat) : Extended :=
  let r := if n % 2 = 1 then r.mul x else r
  if n / 2 = 0 then r else power r (x.mul x) (n / 2)
termination_by n

/-- A power of ten. -/
def tenTo (n : Nat) : Extended := power (ofNat 1) (ofNat 10) n

/-- The binary64 number that is nearest, with a sign. -/
def toBinary64 (negative : Bool) (x : Extended) : Binary64 :=
  if 0 ≤ x.exponent then .ofRatio negative (x.significand <<< x.exponent.toNat) 1
  else .ofRatio negative x.significand (1 <<< (-x.exponent).toNat)

/-- The powers of ten up to the 27th are exact. -/
example : (List.range 28).all (fun n =>
    (tenTo n).significand <<< (100 + (tenTo n).exponent.toNat) ==
      Nat.pow 10 n <<< (100 + (-(tenTo n).exponent).toNat)) := by decide +kernel

end Extended

end Binary64

end StudyPlan
