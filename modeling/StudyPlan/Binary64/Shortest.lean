import StudyPlan.Binary64

/-!
# The shortest decimal of a number

A finite number is written with the fewest digits that read back as it, and with
the nearest of those where there are several.  The decimals that read back are
those in the number's *interval*: they are nearer to it than to its neighbours,
and the ends belong to it when its significand is even.  On the grid of a given
number of digits only the two points around the number can be nearest, so the
search tries them on the grids of 1, 2, … 17 digits.

Ties between the two points of a grid, and how the digits are laid out, are the
writer's decisions: `plainText` never uses an exponent and takes the larger of
two equally near decimals, and `dataText` uses an exponent from 10¹⁶ up and
below 10⁻⁵ and takes the even one.
-/

namespace StudyPlan

namespace Binary64

/-- A decimal: its digits as a number and the power of ten they are scaled by. -/
structure Decimal where
  /-- The digits. -/
  digits : Nat
  /-- The exponent of the power of ten. -/
  exponent : Int
deriving DecidableEq, Repr

/-- Which of two equally near decimals is taken. -/
inductive Tie where
  /-- The larger one. -/
  | up
  /-- The one with the even last digit. -/
  | even
deriving DecidableEq, Repr

/-! ## The interval -/

/-- The decimals that read back as a number, in quarters of a unit. -/
structure Interval where
  /-- The lower end. -/
  low : Nat
  /-- The upper end. -/
  high : Nat
  /-- The ends belong to the interval. -/
  closed : Bool

/-- The interval of a positive number.  Just above a power of two the next
number below is half as far as the next one above. -/
def interval (units : Nat) : Interval :=
  let unit := 1 <<< spacing units
  let below := if units = unit <<< 52 ∧ 1 < unit then unit else 2 * unit
  ⟨4 * units - below, 4 * units + 2 * unit, units / unit % 2 == 0⟩

/-- A ratio of quarter units lies in an interval. -/
def Interval.holds (i : Interval) (num den : Nat) : Bool :=
  if i.closed then decide (i.low * den ≤ num) && decide (num ≤ i.high * den)
  else decide (i.low * den < num) && decide (num < i.high * den)

/-! ## The search -/

/-- A ratio's count of decimal places before the point, counted downwards below
one: 0 for 0.5, -1 for 0.05. -/
def leadingZeros : Nat → Nat → Nat → Nat
  | 0, _, _ => 0
  | fuel + 1, num, den => if den ≤ num * 10 then 0 else leadingZeros fuel (num * 10) den + 1

/-- The exponent `p` with 10 ^ (p - 1) ≤ value < 10 ^ p, for a positive number. -/
def pointPlace (units : Nat) : Int :=
  let whole := units / one
  if whole = 0 then -(leadingZeros 400 units one : Int) else (Nat.toDigits 10 whole).length

/-- The value `digits · 10 ^ exponent` as a ratio of quarter units. -/
def Decimal.quarters (d : Decimal) : Nat × Nat :=
  if 0 ≤ d.exponent then (d.digits * Nat.pow 10 d.exponent.toNat * (4 * one), 1)
  else (d.digits * (4 * one), Nat.pow 10 (-d.exponent).toNat)

/-- The better point of the grid of `10 ^ exponent` around a number, if one reads back. -/
def onGrid (tie : Tie) (units : Nat) (exponent : Int) : Option Decimal :=
  let (scaled, step) :=
    if 0 ≤ exponent then (units, one * Nat.pow 10 exponent.toNat)
    else (units * Nat.pow 10 (-exponent).toNat, one)
  let floor := scaled / step
  let rest := scaled % step
  let inside (digits : Nat) : Bool :=
    let q := Decimal.quarters ⟨digits, exponent⟩
    (interval units).holds q.1 q.2
  match inside floor, inside (floor + 1) with
  | false, false => none
  | true, false => some ⟨floor, exponent⟩
  | false, true => some ⟨floor + 1, exponent⟩
  | true, true =>
    if 2 * rest < step then some ⟨floor, exponent⟩
    else if step < 2 * rest then some ⟨floor + 1, exponent⟩
    else match tie with
      | .up => some ⟨floor + 1, exponent⟩
      | .even => some ⟨floor + floor % 2, exponent⟩

/-- The first grid with a point that reads back, from `n` digits on. -/
def searchFrom (tie : Tie) (units : Nat) (place : Int) : (fuel n : Nat) → Decimal
  | 0, n => ⟨0, place - n⟩
  | fuel + 1, n =>
    match onGrid tie units (place - n) with
    | some d => d
    | none => searchFrom tie units place fuel (n + 1)

/-- The decimal without zeros at its end. -/
def Decimal.stripZeros : Nat → Decimal → Decimal
  | 0, d => d
  | fuel + 1, d =>
    if d.digits ≠ 0 ∧ d.digits % 10 = 0 then Decimal.stripZeros fuel ⟨d.digits / 10, d.exponent + 1⟩
    else d

/-- The shortest decimal that reads back as a number, the nearest of several. -/
def shortest (tie : Tie) (units : Nat) : Decimal :=
  if units = 0 then ⟨0, 0⟩
  else (searchFrom tie units (pointPlace units) 20 1).stripZeros 20

/-! ## Layout -/

/-- Zeros. -/
def zeros (n : Nat) : List Char := List.replicate n '0'

/-- The digits of a number. -/
def digitChars (n : Nat) : List Char := Nat.toDigits 10 n

/-- The digits with a point and no exponent; a whole number has no point. -/
def Decimal.plain (d : Decimal) : List Char :=
  let ds := digitChars d.digits
  if 0 ≤ d.exponent then ds ++ (if d.digits = 0 then [] else zeros d.exponent.toNat)
  else
    let places := (-d.exponent).toNat
    if places < ds.length then ds.take (ds.length - places) ++ '.' :: ds.drop (ds.length - places)
    else '0' :: '.' :: zeros (places - ds.length) ++ ds

/-- The digits with an exponent: one digit, the others after a point, and the
signed exponent. -/
def Decimal.scientific (d : Decimal) : List Char :=
  let ds := digitChars d.digits
  let e : Int := d.exponent + ds.length - 1
  ds.take 1 ++ (if ds.length ≤ 1 then [] else '.' :: ds.drop 1) ++
    'e' :: (if 0 ≤ e then '+' else '-') :: digitChars e.natAbs

/-- The sign of a number. -/
def signChars (negative : Bool) : List Char := if negative then ['-'] else []

/-- A number in running text: no exponent, and no point in a whole number. -/
def plainText : Binary64 → String
  | .nan => "NaN"
  | .infinite s => String.ofList (signChars s ++ ['i', 'n', 'f'])
  | .finite s u => String.ofList (signChars s ++ (shortest .up u).plain)

/-- A finite number in a data text: with a point or an exponent.  What is not
finite is `null`. -/
def dataText : Binary64 → String
  | .nan => "null"
  | .infinite _ => "null"
  | .finite s u =>
    let d := shortest .even u
    let place : Int := d.exponent + (digitChars d.digits).length
    let body :=
      if d.digits = 0 then ['0', '.', '0']
      else if -5 < place ∧ place ≤ 16 then
        if 0 ≤ d.exponent then d.plain ++ ['.', '0'] else d.plain
      else d.scientific
    String.ofList (signChars s ++ body)

end Binary64

end StudyPlan
