import StudyPlan.Binary64.Extended

/-!
# Numbers that are kept exactly

Rounding a ratio depends on its value only (`roundRatio_scale`), and where the value is a
representable count of units it changes nothing (`roundRatio_exact`).  What is at most 2⁵³
times a power of two is representable (`representable_mul`).  So a whole number up to
2⁵³ is kept as it is (`ofInt_eq`), and one that is multiplied by ten and then divided by ten
is found again, as long as the product is representable (`div_ten_mul_ten`).

Other values are rounded, but not to more than the double and a unit (`roundRatio_le`), and
not to less than the half (`le_roundRatio`).
-/

namespace StudyPlan

namespace Binary64

variable {num den c u m : Nat}

/-! ## The value of a ratio -/

theorem roundHalfEven_scale (hc : 0 < c) (num den : Nat) :
    roundHalfEven (num * c) (den * c) = roundHalfEven num den := by
  have hbelow : 2 * (num % den * c) < den * c ↔ 2 * (num % den) < den := by
    rw [← Nat.mul_assoc, Nat.mul_lt_mul_right hc]
  have habove : den * c < 2 * (num % den * c) ↔ den < 2 * (num % den) := by
    rw [← Nat.mul_assoc, Nat.mul_lt_mul_right hc]
  simp only [roundHalfEven, Nat.mul_div_mul_right _ _ hc, Nat.mul_mod_mul_right, hbelow, habove]

theorem roundRatio_scale (hc : 0 < c) (num den : Nat) :
    roundRatio (num * c) (den * c) = roundRatio num den := by
  simp only [roundRatio, Nat.mul_div_mul_right _ _ hc, Nat.mul_right_comm den c,
    roundHalfEven_scale hc]

theorem ofUnits_scale (hc : 0 < c) (s : Bool) (num den : Nat) :
    ofUnits s (num * c) (den * c) = ofUnits s num den := by
  rw [ofUnits, ofUnits, roundRatio_scale hc]

/-! ## Representable counts -/

/-- A count of units that some number has. -/
def Representable (units : Nat) : Prop := 1 <<< spacing units ∣ units

theorem one_shiftLeft_pos (p : Nat) : 0 < 1 <<< p := by
  rw [Nat.one_shiftLeft]
  exact Nat.two_pow_pos p

theorem one_shiftLeft_le {p q : Nat} (h : p ≤ q) : 1 <<< p ≤ 1 <<< q := by
  rw [Nat.one_shiftLeft, Nat.one_shiftLeft]
  exact Nat.pow_le_pow_right (by decide) h

theorem roundHalfEven_exact (m : Nat) (hden : 0 < den) : roundHalfEven (m * den) den = m := by
  rw [roundHalfEven, Nat.mul_div_cancel _ hden, Nat.mul_mod_left]
  exact if_pos hden

theorem roundRatio_exact (hu : Representable u) (hden : 0 < den) : roundRatio (u * den) den = u := by
  have hunit := one_shiftLeft_pos (spacing u)
  have hdiv : u / 1 <<< spacing u * 1 <<< spacing u = u := Nat.div_mul_cancel hu
  simp only [roundRatio, Nat.mul_div_cancel _ hden]
  calc roundHalfEven (u * den) (den * 1 <<< spacing u) * 1 <<< spacing u
      = roundHalfEven (u / 1 <<< spacing u * (den * 1 <<< spacing u))
          (den * 1 <<< spacing u) * 1 <<< spacing u := by
        rw [Nat.mul_comm den, ← Nat.mul_assoc, hdiv]
    _ = u / 1 <<< spacing u * 1 <<< spacing u := by
        rw [roundHalfEven_exact _ (Nat.mul_pos hden hunit)]
    _ = u := hdiv

theorem ofUnits_exact (hu : Representable u) (hlimit : u < limit) (hden : 0 < den) (s : Bool) :
    ofUnits s (u * den) den = .finite s u := by
  simp only [ofUnits, roundRatio_exact hu hden, if_pos hlimit]

theorem representable_of_spacing_le {p : Nat} (hp : spacing u ≤ p) (hu : 1 <<< p ∣ u) :
    Representable u := by
  refine Nat.dvd_trans ?_ hu
  rw [Nat.one_shiftLeft, Nat.one_shiftLeft]
  exact Nat.pow_dvd_pow 2 hp

/-- The largest whole number up to which all are numbers of the format. -/
def lastWhole : Nat := 0x20000000000000

/-- Fifty-three binary digits leave at most the zeros behind them for the spacing. -/
theorem spacing_mul_le (hm : m < lastWhole) (p : Nat) : spacing (m * 1 <<< p) ≤ p := by
  cases Nat.eq_zero_or_pos m with
  | inl hzero =>
    rw [hzero, Nat.zero_mul]
    exact Nat.zero_le p
  | inr hpos =>
    have hlog : (m * 1 <<< p).log2 < 53 + p := by
      rw [Nat.log2_lt (Nat.ne_of_gt (Nat.mul_pos hpos (one_shiftLeft_pos p))), Nat.one_shiftLeft,
        Nat.pow_add]
      exact Nat.mul_lt_mul_of_pos_right hm (Nat.two_pow_pos p)
    rw [spacing]
    omega

/-- Fifty-three binary digits may stand in front of zeros. -/
theorem representable_mul (hm : m ≤ lastWhole) (p : Nat) : Representable (m * 1 <<< p) := by
  cases Nat.eq_or_lt_of_le hm with
  | inl hlast =>
    have hunits : m * 1 <<< p = 1 <<< (53 + p) := by
      rw [hlast, show lastWhole = 1 <<< 53 from rfl, Nat.one_shiftLeft, Nat.one_shiftLeft,
        Nat.one_shiftLeft, Nat.pow_add]
    refine representable_of_spacing_le (p := 53 + p) ?_ (hunits ▸ Nat.dvd_refl _)
    rw [spacing, hunits, Nat.one_shiftLeft, Nat.log2_two_pow]
    exact Nat.sub_le _ _
  | inr hless => exact representable_of_spacing_le (spacing_mul_le hless p) (Nat.dvd_mul_left _ _)

/-! ## Whole numbers -/

theorem one_pos : 0 < one := by decide +kernel

theorem representable_mul_one (hm : m ≤ lastWhole) : Representable (m * one) :=
  representable_mul hm 1074

theorem mul_one_lt_limit (hm : m ≤ 10 * lastWhole) : m * one < limit :=
  Nat.lt_of_le_of_lt (Nat.mul_le_mul_right one hm) (by decide +kernel)

/-- A whole number up to 2⁵³ is kept as it is. -/
theorem ofInt_eq {i : Int} (hi : i.natAbs ≤ lastWhole) :
    ofInt i = .finite (decide (i < 0)) (i.natAbs * one) := by
  have hexact := ofUnits_exact (representable_mul_one hi)
    (mul_one_lt_limit (Nat.le_trans hi (by decide))) Nat.one_pos (decide (i < 0))
  rwa [Nat.mul_one] at hexact

theorem ofNat_eq (hm : m ≤ lastWhole) : ofNat m = .finite false (m * one) :=
  ofInt_eq (i := m) hm

/-! ## Ten times as much, and a tenth -/

theorem mul_ten (s : Bool) (m : Nat) :
    (finite s (m * one)).mul (ofNat 10) = ofUnits s (10 * m * one) 1 := by
  have hproduct : m * one * (10 * one) = 10 * m * one * one := by
    rw [Nat.mul_mul_mul_comm, Nat.mul_comm m, Nat.mul_assoc (10 * m)]
  rw [ofNat_eq (by decide), mul, Bool.bne_false, hproduct]
  exact (congrArg _ (Nat.one_mul one).symm).trans (ofUnits_scale one_pos s _ 1)

theorem div_ten (s : Bool) (hm : m ≤ lastWhole) :
    (finite s (10 * m * one)).div (ofNat 10) = .finite s (m * one) := by
  have hten : 10 * one ≠ 0 := Nat.ne_of_gt (Nat.mul_pos (by decide) one_pos)
  have hquotient : 10 * m * one * one = m * one * (10 * one) := by
    rw [Nat.mul_mul_mul_comm, Nat.mul_comm m, Nat.mul_assoc (10 * m)]
  rw [ofNat_eq (by decide), div, if_neg hten, Bool.bne_false, hquotient]
  exact ofUnits_exact (representable_mul_one hm)
    (mul_one_lt_limit (Nat.le_trans hm (by decide))) (Nat.pos_of_ne_zero hten) s

/-- Ten times a number is even, so that there is room for one binary digit more. -/
theorem div_ten_mul_ten (s : Bool) (hm : 5 * m ≤ lastWhole) :
    ((finite s (m * one)).mul (ofNat 10)).div (ofNat 10) = .finite s (m * one) := by
  have htwo : 2 * one = 1 <<< 1075 := by decide +kernel
  have hten : 10 * m = 5 * m * 2 := by omega
  have heven : Representable (10 * m * one) := by
    rw [hten, Nat.mul_assoc, htwo]
    exact representable_mul hm 1075
  have hproduct : ofUnits s (10 * m * one) 1 = .finite s (10 * m * one) := by
    have hexact := ofUnits_exact heven (mul_one_lt_limit (by omega)) Nat.one_pos s
    rwa [Nat.mul_one] at hexact
  rw [mul_ten, hproduct]
  exact div_ten s (by omega)

/-! ## Bounds -/

theorem one_shiftLeft_spacing_le (hu : 0 < u) : 1 <<< spacing u ≤ u := by
  rw [Nat.one_shiftLeft]
  calc 2 ^ spacing u ≤ 2 ^ u.log2 := Nat.pow_le_pow_right (by decide) (Nat.sub_le _ _)
    _ ≤ u := Nat.log2_self_le (Nat.ne_of_gt hu)

/-- A quotient is rounded up by one at most. -/
theorem roundHalfEven_le (num den : Nat) : roundHalfEven num den ≤ num / den + 1 := by
  have hodd := Nat.mod_lt (num / den) (show 0 < 2 by decide)
  unfold roundHalfEven
  dsimp only
  split
  · omega
  · split
    · omega
    · omega

/-- Rounding moves a ratio by no more than itself and a unit. -/
theorem roundRatio_le (num den : Nat) : roundRatio num den ≤ 2 * (num / den) + 1 := by
  have hunit : 1 <<< spacing (num / den) ≤ num / den + 1 := by
    cases Nat.eq_zero_or_pos (num / den) with
    | inl hzero =>
      rw [hzero]
      decide
    | inr hpos => exact Nat.le_succ_of_le (one_shiftLeft_spacing_le hpos)
  have hround := roundHalfEven_le num (den * 1 <<< spacing (num / den))
  rw [← Nat.div_div_eq_div_mul] at hround
  calc roundRatio num den
      ≤ (num / den / 1 <<< spacing (num / den) + 1) * 1 <<< spacing (num / den) :=
        Nat.mul_le_mul_right _ hround
    _ ≤ num / den + 1 <<< spacing (num / den) := by
        rw [Nat.succ_mul]
        exact Nat.add_le_add_right (Nat.div_mul_le_self _ _) _
    _ ≤ 2 * (num / den) + 1 := by omega

theorem div_le_roundHalfEven (num den : Nat) : num / den ≤ roundHalfEven num den := by
  unfold roundHalfEven
  dsimp only
  split
  · exact Nat.le_refl _
  split
  · exact Nat.le_succ _
  · exact Nat.le_add_right _ _

/-- Rounding leaves the half at least. -/
theorem le_roundRatio (num den : Nat) : num / den ≤ 2 * roundRatio num den := by
  cases Nat.eq_zero_or_pos (num / den) with
  | inl hzero =>
    rw [hzero]
    exact Nat.zero_le _
  | inr hpos =>
    have hunit := one_shiftLeft_pos (spacing (num / den))
    have hround := div_le_roundHalfEven num (den * 1 <<< spacing (num / den))
    rw [← Nat.div_div_eq_div_mul] at hround
    have hsmall := one_shiftLeft_spacing_le hpos
    have hrest : num / den < num / den / 1 <<< spacing (num / den) * 1 <<< spacing (num / den)
        + 1 <<< spacing (num / den) := Nat.lt_div_mul_add hunit
    have hwhole : 1 <<< spacing (num / den)
        ≤ num / den / 1 <<< spacing (num / den) * 1 <<< spacing (num / den) :=
      Nat.le_mul_of_pos_left _ (Nat.div_pos hsmall hunit)
    have hresult : num / den / 1 <<< spacing (num / den) * 1 <<< spacing (num / den)
        ≤ roundRatio num den := Nat.mul_le_mul_right _ hround
    omega

end Binary64

end StudyPlan
