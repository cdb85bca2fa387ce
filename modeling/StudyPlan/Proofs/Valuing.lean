import StudyPlan.Proofs.Numerals
import StudyPlan.Proofs.Rounding

/-!
# What a numeral is worth

A numeral that has a value is a whole number or a finite one (`isFinite_of_value?`): what
would be infinite is refused, and a quotient by a power of ten never is, since the power is
not small.

With a zero after the point a whole number is not the same numeral any more.  Its digits are
gathered with the zero, that is ten times the number, and divided by ten.  Both steps are
rounded (`value?_pointZero`).
-/

namespace StudyPlan

namespace Binary64

variable {s : Bool} {num den u : Nat} {x y : Binary64}

/-! ## Finite results -/

theorem ofUnits_finite (h : 2 * (num / den) + 1 < limit) (s : Bool) :
    ∃ v ≤ 2 * (num / den) + 1, ofUnits s num den = .finite s v :=
  ⟨_, roundRatio_le num den, if_pos (Nat.lt_of_le_of_lt (roundRatio_le num den) h)⟩

/-- A quotient by a half at least is not much larger. -/
theorem div_finite {v : Nat} (hv : one ≤ 2 * v) (hu : 4 * u + 1 < limit) :
    ∃ w ≤ 4 * u + 1, (finite s u).div (.finite false v) = .finite s w := by
  have hpos : v ≠ 0 := by
    rintro rfl
    exact absurd hv (Nat.not_le_of_gt one_pos)
  have hquotient : u * one / v ≤ 2 * u := by
    refine Nat.div_le_of_le_mul ?_
    calc u * one ≤ u * (2 * v) := Nat.mul_le_mul_left u hv
      _ = v * (2 * u) := by rw [Nat.mul_left_comm, Nat.mul_comm u v, Nat.mul_left_comm]
  have hbound : 2 * (u * one / v) + 1 ≤ 4 * u + 1 := by omega
  obtain ⟨w, hw, hdiv⟩ := ofUnits_finite (Nat.lt_of_le_of_lt hbound hu) s
  refine ⟨w, Nat.le_trans hw hbound, ?_⟩
  rw [div, if_neg hpos, Bool.bne_false, hdiv]

theorem neg_ofUnits (s : Bool) (num den : Nat) :
    (ofUnits s num den).neg = ofUnits (!s) num den := by
  unfold ofUnits
  dsimp only
  split <;> rfl

theorem neg_mul_ten (s : Bool) (u : Nat) :
    ((finite s u).mul (ofNat 10)).neg = (finite (!s) u).mul (ofNat 10) := by
  rw [ofNat_eq (by decide), mul, mul, Bool.bne_false, Bool.bne_false, neg_ofUnits]

theorem neg_div_ten (x : Binary64) : (x.div (ofNat 10)).neg = x.neg.div (ofNat 10) := by
  have hten : 10 * one ≠ 0 := Nat.ne_of_gt (Nat.mul_pos (by decide) one_pos)
  rw [ofNat_eq (by decide)]
  cases x with
  | nan => rfl
  | infinite s => cases s <;> rfl
  | finite s u =>
    rw [neg, div, div, if_neg hten, if_neg hten, neg_ofUnits, Bool.bne_false, Bool.bne_false]

theorem isFinite_neg (x : Binary64) : x.neg.isFinite = x.isFinite := by
  cases x with
  | nan => rfl
  | infinite s => rfl
  | finite s u => rfl

end Binary64

namespace Json

open Binary64
open Text (digitsValue)

variable {n : Numeral} {x : Binary64}

/-! ## Powers of ten -/

/-- The powers of ten that are reckoned with are finite, and a half at least. -/
theorem powerOfTen_finite {k : Nat} (hk : k ≤ 308) :
    ∃ v, one ≤ 2 * v ∧ powerOfTen k = .finite false v := by
  have hlow : one ≤ 2 * roundRatio (Nat.pow 10 k * one) 1 := by
    refine Nat.le_trans ?_ (le_roundRatio _ 1)
    rw [Nat.div_one]
    exact Nat.le_mul_of_pos_left one (Nat.pow_pos (by decide))
  have hhigh : roundRatio (Nat.pow 10 k * one) 1 < limit := by
    cases Nat.eq_or_lt_of_le hk with
    | inl hlast =>
      rw [hlast]
      decide +kernel
    | inr hless =>
      -- below the last power there is room for the double
      have hpower {j : Nat} (hj : k ≤ j) : Nat.pow 10 k ≤ Nat.pow 10 j :=
        Nat.pow_le_pow_right (by decide) hj
      obtain ⟨p, hp, hroom⟩ : ∃ p, Nat.pow 10 k ≤ p ∧ 2 * (p * one) + 1 < limit :=
        ⟨_, hpower (Nat.le_of_lt_succ hless), by decide +kernel⟩
      have hsize := Nat.mul_le_mul_right one hp
      have hround := roundRatio_le (Nat.pow 10 k * one) 1
      rw [Nat.div_one] at hround
      omega
  exact ⟨_, hlow, if_pos hhigh⟩

theorem mul_powerOfTen_finite {u k : Nat} (hk : k ≤ 308)
    (hx : ((finite false u).mul (powerOfTen k)).isInfinite ≠ true) :
    ((finite false u).mul (powerOfTen k)).isFinite = true := by
  obtain ⟨v, -, hv⟩ := powerOfTen_finite hk
  rw [hv, mul, ofUnits] at hx ⊢
  split
  · rfl
  next hlarge =>
    simp only [if_neg hlarge] at hx
    exact absurd rfl hx

theorem div_powerOfTen_finite {s : Bool} {u k : Nat} (hk : k ≤ 308) (hu : 4 * u + 1 < limit) :
    ∃ w ≤ 4 * u + 1, (finite s u).div (powerOfTen k) = .finite s w := by
  obtain ⟨v, hhalf, hv⟩ := powerOfTen_finite hk
  rw [hv]
  exact div_finite hhalf hu

/-! ## Finite values -/

/-- A whole number that 64 bits hold is far from infinite. -/
theorem ofUnits_word {n : Nat} (hn : n < word) (s : Bool) :
    ∃ v ≤ 2 * (word * one) + 1, ofUnits s (n * one) 1 = .finite s v := by
  have hroom : 2 * (word * one) + 1 < limit := by decide +kernel
  have hsize : n * one / 1 ≤ word * one := by
    rw [Nat.div_one]
    exact Nat.mul_le_mul_right one (Nat.le_of_lt hn)
  have hbound : 2 * (n * one / 1) + 1 ≤ 2 * (word * one) + 1 := by omega
  obtain ⟨v, hv, hunits⟩ := ofUnits_finite (Nat.lt_of_le_of_lt hbound hroom) s
  exact ⟨v, Nat.le_trans hv hbound, hunits⟩

theorem gatherWhole_lt {acc : Nat} (hacc : acc < word) (cs : List Char) :
    (gatherWhole acc cs).1 < word := by
  induction cs generalizing acc with
  | nil => exact hacc
  | cons c cs ih =>
    unfold gatherWhole
    dsimp only
    split
    next hnext => exact ih hnext
    · exact hacc

theorem gatherFraction_lt {acc : Nat} (hacc : acc < word) (cs : List Char) :
    (gatherFraction acc cs).1 < word := by
  induction cs generalizing acc with
  | nil => exact hacc
  | cons c cs ih =>
    unfold gatherFraction
    dsimp only
    split
    next hnext => exact ih hnext
    · exact hacc

theorem isFinite_of_scaled {digits : Nat} {e : Int} (hdigits : digits < word)
    (h : scaled digits e = some x) : x.isFinite = true := by
  have hroom : 4 * (4 * (2 * (word * one) + 1) + 1) + 1 < limit := by decide +kernel
  obtain ⟨u, hu, hstart⟩ := ofUnits_word hdigits false
  have hstart : Binary64.ofNat digits = .finite false u := hstart
  unfold scaled at h
  dsimp only at h
  rw [hstart] at h
  split at h
  · obtain rfl := Option.some.inj h
    rfl
  split at h
  · cases h
  split at h
  · split at h
    next => cases h
    next hfinite =>
      obtain rfl := Option.some.inj h
      exact mul_powerOfTen_finite (by omega) hfinite
  split at h
  · obtain rfl := Option.some.inj h
    obtain ⟨w, -, hw⟩ := div_powerOfTen_finite (s := false) (u := u)
      (k := (-e).toNat) (by omega) (by omega)
    rw [hw]
    rfl
  split at h
  · obtain rfl := Option.some.inj h
    obtain ⟨w, hwu, hw⟩ := div_powerOfTen_finite (s := false) (u := u) (k := 308)
      (by omega) (by omega)
    obtain ⟨w', -, hw'⟩ := div_powerOfTen_finite (s := false) (u := w)
      (k := (-e - 308).toNat) (by omega) (by omega)
    rw [hw, hw']
    rfl
  · obtain rfl := Option.some.inj h
    rfl

/-- A numeral is never infinite. -/
theorem isFinite_of_value? (h : n.value? = some (.float x)) : x.isFinite = true := by
  obtain ⟨m, -, hv⟩ | ⟨m, -, -, hv⟩ | ⟨y, hy, hv⟩ := value?_cases h
  · cases hv
  · cases hv
  obtain rfl := Json.float.inj hv
  obtain ⟨z, hz, rfl⟩ := Option.map_eq_some_iff.1 hy
  have hfinite := isFinite_of_scaled
    (gatherFraction_lt (gatherWhole_lt (show 0 < word by decide) n.whole) n.fraction) hz
  split
  · rw [isFinite_neg]
    exact hfinite
  · exact hfinite

theorem natAbs_lt_of_value? {i : Int} (h : n.value? = some (.int i)) : i.natAbs < word := by
  obtain ⟨m, hm, hi⟩ | ⟨m, -, hm, hi⟩ | ⟨x, -, hi⟩ := value?_cases h
  · obtain rfl := Json.int.inj hi
    exact hm
  · obtain rfl := Json.int.inj hi
    rw [Int.natAbs_neg, Int.natAbs_natCast]
    exact Nat.lt_of_le_of_lt hm (by decide)
  · cases hi

theorem isFinite_ofInt {i : Int} (hi : i.natAbs < word) : (Binary64.ofInt i).isFinite = true := by
  obtain ⟨u, -, hu⟩ := ofUnits_word hi (decide (i < 0))
  rw [ofInt, ofRatio, hu]
  rfl

/-! ## A zero after the point -/

theorem le_digitsValue (acc : Nat) (cs : List Char) : acc ≤ digitsValue acc cs := by
  induction cs generalizing acc with
  | nil => exact Nat.le_refl acc
  | cons c cs ih => exact Nat.le_trans (Nat.le_add_right_of_le (by omega)) (ih _)

theorem gatherWhole_eq {acc : Nat} {cs : List Char} (h : digitsValue acc cs < word) :
    gatherWhole acc cs = (digitsValue acc cs, 0) := by
  induction cs generalizing acc with
  | nil => rfl
  | cons c cs ih =>
    have hnext : digitsValue acc [c] < word := Nat.lt_of_le_of_lt (le_digitsValue _ cs) h
    rw [gatherWhole, if_pos hnext]
    exact ih h

theorem gatherFraction_zero {m : Nat} (hm : 10 * m < word) :
    gatherFraction m ['0'] = (10 * m, 1) := if_pos hm

theorem scaled_tenth (m : Nat) :
    scaled (10 * m) (-1) = some (((finite false (m * one)).mul (.ofNat 10)).div (.ofNat 10)) := by
  cases Nat.eq_zero_or_pos m with
  | inl hzero =>
    rw [hzero, div_ten_mul_ten false (by decide), Nat.zero_mul]
    rfl
  | inr hpos =>
    have hstart : Binary64.ofNat (10 * m) = (finite false (m * one)).mul (.ofNat 10) :=
      (mul_ten false m).symm
    rw [scaled, if_neg (by omega), hstart]
    rfl

/-- A whole number with a zero after the point is found again if the product with ten and the
quotient by ten are. -/
theorem value?_pointZero {s : Bool} {m : Nat} (hm : 10 * m < word) :
    (pointZero s (Nat.toDigits 10 m)).value?
      = some (.float (((finite s (m * one)).mul (.ofNat 10)).div (.ofNat 10))) := by
  have hword : digitsValue 0 (Nat.toDigits 10 m) < word := by
    rw [Document.digitsValue_toDigits]
    omega
  have hfloat : (pointZero s (Nat.toDigits 10 m)).float?
      = some (((finite s (m * one)).mul (.ofNat 10)).div (.ofNat 10)) := by
    have hgathered : gatherWhole 0 (Nat.toDigits 10 m) = (m, 0) := by
      rw [gatherWhole_eq hword, Document.digitsValue_toDigits]
    have hexponent : ((0 : Nat) : Int) - (1 : Nat) + 0 = -1 := rfl
    simp only [Numeral.float?, pointZero_whole, pointZero_fraction, scale_pointZero, hgathered,
      gatherFraction_zero hm, hexponent, scaled_tenth, Option.map_some]
    cases s with
    | false => exact congrArg some (if_neg Bool.false_ne_true)
    | true =>
      refine congrArg some ((if_pos rfl).trans ?_)
      rw [neg_div_ten, neg_mul_ten, Bool.not_false]
  rw [Numeral.value?, hfloat]
  rfl

end Json

end StudyPlan
