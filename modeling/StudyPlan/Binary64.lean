/-!
# Binary64 numbers

The numbers of the binary64 format.  Every finite one is a whole multiple of the
least positive one, 2⁻¹⁰⁷⁴, so its magnitude is kept as that multiple, its
*units*.  An operation is computed exactly and rounded once: `roundRatio` takes
the representable number nearest to a ratio of units, and of two equally near
ones the one with the even significand.

A count of units is representable when it is below 2⁵³ or a multiple of the
power of two that leaves it 53 digits (`spacing`).
-/

namespace StudyPlan

/-- A number of the binary64 format. -/
inductive Binary64 where
  /-- Not a number. -/
  | nan
  /-- An infinity. -/
  | infinite (negative : Bool)
  /-- A sign and a multiple of 2⁻¹⁰⁷⁴. -/
  | finite (negative : Bool) (units : Nat)
deriving DecidableEq, Repr, Inhabited

namespace Binary64

/-! ## Rounding -/

/-- The number of units in one. -/
def one : Nat := 1 <<< 1074

/-- The first count of units past the finite numbers. -/
def limit : Nat := 1 <<< 2098

/-- The exponent of the distance between representable numbers of this size. -/
def spacing (units : Nat) : Nat := units.log2 - 52

/-- A quotient rounded to the nearest whole number, a half to the even one. -/
def roundHalfEven (num den : Nat) : Nat :=
  let q := num / den
  let r := num % den
  if 2 * r < den then q else if den < 2 * r then q + 1 else q + q % 2

/-- The representable number of units nearest to a ratio. -/
def roundRatio (num den : Nat) : Nat :=
  let unit := 1 <<< spacing (num / den)
  roundHalfEven num (den * unit) * unit

/-- The number nearest to a ratio of units, or an infinity past the largest. -/
def ofUnits (negative : Bool) (num den : Nat) : Binary64 :=
  let units := roundRatio num den
  if units < limit then .finite negative units else .infinite negative

/-- The number nearest to a ratio. -/
def ofRatio (negative : Bool) (num den : Nat) : Binary64 := ofUnits negative (num * one) den

/-- The number nearest to a natural number. -/
def ofNat (n : Nat) : Binary64 := ofRatio false n 1

/-- The number nearest to an integer. -/
def ofInt (i : Int) : Binary64 := ofRatio (decide (i < 0)) i.natAbs 1

/-- The number is an infinity. -/
def isInfinite : Binary64 → Bool
  | .infinite _ => true
  | _ => false

/-- The number is neither an infinity nor `nan`. -/
def isFinite : Binary64 → Bool
  | .finite _ _ => true
  | _ => false

/-- The number with the other sign. -/
def neg : Binary64 → Binary64
  | .nan => .nan
  | .infinite s => .infinite (!s)
  | .finite s u => .finite (!s) u

/-! ## Arithmetic -/

/-- The signed units of a sign and a magnitude. -/
def signed (negative : Bool) (units : Nat) : Int := if negative then -(units : Int) else units

/-- The sum, rounded once.  Two zeros add to a negative one only if both are. -/
def add : Binary64 → Binary64 → Binary64
  | .nan, _ => .nan
  | _, .nan => .nan
  | .infinite s, .infinite t => if s = t then .infinite s else .nan
  | .infinite s, _ => .infinite s
  | _, .infinite t => .infinite t
  | .finite s a, .finite t b =>
    let total := signed s a + signed t b
    if total = 0 then .finite (s && t) 0
    else ofUnits (decide (total < 0)) total.natAbs 1

/-- The difference, rounded once. -/
def sub (x y : Binary64) : Binary64 := x.add y.neg

/-- The product, rounded once. -/
def mul : Binary64 → Binary64 → Binary64
  | .nan, _ => .nan
  | _, .nan => .nan
  | .finite s a, .finite t b => ofUnits (s != t) (a * b) one
  | .finite s a, .infinite t => if a = 0 then .nan else .infinite (s != t)
  | .infinite s, .finite t b => if b = 0 then .nan else .infinite (s != t)
  | .infinite s, .infinite t => .infinite (s != t)

/-- The quotient, rounded once. -/
def div : Binary64 → Binary64 → Binary64
  | .nan, _ => .nan
  | _, .nan => .nan
  | .infinite _, .infinite _ => .nan
  | .infinite s, .finite t _ => .infinite (s != t)
  | .finite s _, .infinite t => .finite (s != t) 0
  | .finite s a, .finite t b =>
    if b = 0 then if a = 0 then .nan else .infinite (s != t)
    else ofUnits (s != t) (a * one) b

/-! ## Order -/

/-- A place on the line for every number but `nan`. -/
def rank? : Binary64 → Option Int
  | .nan => none
  | .infinite s => some (signed s limit)
  | .finite s u => some (signed s u)

/-- One number is below another; never so if one is `nan`. -/
def lt (x y : Binary64) : Bool :=
  match x.rank?, y.rank? with
  | some a, some b => decide (a < b)
  | _, _ => false

/-- One number is at most another; never so if one is `nan`. -/
def le (x y : Binary64) : Bool :=
  match x.rank?, y.rank? with
  | some a, some b => decide (a ≤ b)
  | _, _ => false

/-- The larger of two numbers; if one is `nan` the other. -/
def max (x y : Binary64) : Binary64 :=
  match x, y with
  | .nan, y => y
  | x, .nan => x
  | x, y => if x.lt y then y else x

/-! ## Whole numbers -/

/-- The least and greatest whole numbers of 64 bits. -/
def clampInt64 (i : Int) : Int := Max.max (-0x8000000000000000) (Min.min i 0x7FFFFFFFFFFFFFFF)

/-- The largest whole number that is not above, kept within 64 bits; 0 for `nan`. -/
def floorInt64 : Binary64 → Int
  | .nan => 0
  | .infinite s => clampInt64 (signed s limit)
  | .finite s u => clampInt64 (Int.fdiv (signed s u) one)

/-- The number is finite and whole. -/
def isWhole : Binary64 → Bool
  | .finite _ u => u % one == 0
  | _ => false

end Binary64

end StudyPlan
