import StudyPlan.Binary64.Shortest
import StudyPlan.Proofs.Numerals
import StudyPlan.Proofs.Rounding

/-!
# The text of a whole number

Up to 2⁵³ the neighbours of a whole number are at most one away from it, so no other whole
number reads back as it (`holds_whole`).  On the grids of whole numbers the search for the
shortest decimal therefore finds the number itself or nothing (`onGrid_whole`), and on the
grid of ones it does find it.  What it finds first, and what is left without the zeros at its
end, *counts* the number (`Decimal.Counts`).

So the number is written with all its digits, and with a zero after the point
(`dataText_whole`).
-/

namespace StudyPlan

namespace Binary64

variable {m k : Nat} {tie : Tie}

/-! ## Decimals without a fraction -/

/-- The decimal is a whole number. -/
def Decimal.Counts (d : Decimal) (m : Nat) : Prop :=
  ∃ e : Nat, d.exponent = e ∧ d.digits * Nat.pow 10 e = m

theorem Decimal.Counts.stripZeros {m : Nat} (fuel : Nat) {d : Decimal} (h : d.Counts m) :
    (d.stripZeros fuel).Counts m := by
  induction fuel generalizing d with
  | zero => exact h
  | succ fuel ih =>
    unfold Decimal.stripZeros
    split
    next hzero =>
      obtain ⟨e, he, hm⟩ := h
      have hten : d.digits = d.digits / 10 * 10 := by omega
      refine ih ⟨e + 1, by rw [he]; rfl, ?_⟩
      calc d.digits / 10 * Nat.pow 10 (e + 1)
          = d.digits / 10 * 10 * Nat.pow 10 e := by
            rw [show Nat.pow 10 (e + 1) = Nat.pow 10 e * 10 from rfl, Nat.mul_assoc,
              Nat.mul_comm 10]
        _ = m := by rw [← hten, hm]
    · exact h

theorem toDigits_mul_pow (hk : 0 < k) (e : Nat) :
    Nat.toDigits 10 (k * Nat.pow 10 e) = Nat.toDigits 10 k ++ zeros e := by
  induction e with
  | zero => simp [zeros]
  | succ e ih =>
    have hpos : 0 < k * Nat.pow 10 e := Nat.mul_pos hk (Nat.pow_pos (by decide))
    have hten : k * Nat.pow 10 (e + 1) = 10 * (k * Nat.pow 10 e) + 0 := by
      rw [show Nat.pow 10 (e + 1) = Nat.pow 10 e * 10 from rfl, ← Nat.mul_assoc, Nat.mul_comm,
        Nat.add_zero]
    rw [hten, ← Nat.toDigits_append_toDigits (by decide) hpos (by decide), ih, Nat.toDigits_zero,
      List.append_assoc, zeros, zeros, List.replicate_succ']

/-- A whole number is laid out with all its digits. -/
theorem Decimal.Counts.plain {d : Decimal} (h : d.Counts m) (hm : 0 < m) :
    d.digits ≠ 0 ∧ 0 ≤ d.exponent ∧ d.plain = Nat.toDigits 10 m ∧
      d.exponent + (digitChars d.digits).length = (Nat.toDigits 10 m).length := by
  obtain ⟨e, he, rfl⟩ := h
  have hdigits : 0 < d.digits := Nat.pos_of_mul_pos_right hm
  have hexponent : 0 ≤ d.exponent := by omega
  have hlayout := toDigits_mul_pow hdigits e
  refine ⟨Nat.ne_of_gt hdigits, hexponent, ?_, ?_⟩
  · rw [Decimal.plain, if_pos hexponent, if_neg (Nat.ne_of_gt hdigits), hlayout, he]
    rfl
  · rw [hlayout, he, List.length_append, zeros, List.length_replicate, digitChars]
    omega

/-! ## The search -/

/-- The neighbours of a whole number are at most one away. -/
theorem one_shiftLeft_spacing_whole (hm : m < lastWhole) : 1 <<< spacing (m * one) ≤ one :=
  one_shiftLeft_le (spacing_mul_le hm 1074)

theorem add_one_le_mul {k : Nat} (h : k < m) : k * one + one ≤ m * one :=
  Nat.succ_mul k one ▸ Nat.mul_le_mul_right one h

/-- Of the whole numbers, only the number itself reads back as it. -/
theorem holds_whole (hpos : 0 < m) (hm : m < lastWhole) (k : Nat) :
    (interval (m * one)).holds (k * (4 * one)) 1 = true ↔ k = m := by
  have hunit := one_shiftLeft_spacing_whole hm
  have hunit' := one_shiftLeft_pos (spacing (m * one))
  have hquarters : k * (4 * one) = 4 * (k * one) := Nat.mul_left_comm k 4 one
  have hsize : one ≤ m * one := Nat.le_mul_of_pos_left one hpos
  have hbelow : k < m → k * one + one ≤ m * one := add_one_le_mul
  have habove : m < k → m * one + one ≤ k * one := add_one_le_mul
  have hsame : k = m → k * one = m * one := congrArg (· * one)
  simp only [interval, Interval.holds, hquarters, Nat.mul_one]
  generalize m * one = u at *
  generalize k * one = v at *
  generalize 1 <<< spacing u = unit at *
  split <;> split <;> simp only [Bool.and_eq_true, decide_eq_true_eq] <;> omega

/-- The point of a grid of whole numbers that is not above the number, if the next one is
not inside. -/
theorem onGrid_floor {units floor e : Nat} (hfloor : units / (one * Nat.pow 10 e) = floor)
    (hnext : (interval units).holds (Decimal.quarters ⟨floor + 1, e⟩).1
      (Decimal.quarters ⟨floor + 1, e⟩).2 = false) :
    onGrid tie units e
      = if (interval units).holds (Decimal.quarters ⟨floor, e⟩).1 (Decimal.quarters ⟨floor, e⟩).2
        then some ⟨floor, e⟩ else none := by
  rw [onGrid, if_pos (Int.natCast_nonneg e), Int.toNat_natCast]
  simp only [hfloor, hnext]
  cases (interval units).holds (Decimal.quarters ⟨floor, e⟩).1 (Decimal.quarters ⟨floor, e⟩).2 with
  | false => rfl
  | true => rfl

theorem inside_whole (hpos : 0 < m) (hm : m < lastWhole) (k e : Nat) :
    (interval (m * one)).holds (Decimal.quarters ⟨k, e⟩).1 (Decimal.quarters ⟨k, e⟩).2
      = decide (k * Nat.pow 10 e = m) := by
  rw [Bool.eq_iff_iff, decide_eq_true_iff, ← holds_whole hpos hm, Decimal.quarters,
    if_pos (Int.natCast_nonneg e), Int.toNat_natCast]

/-- A grid of whole numbers has the number itself, or no point that reads back. -/
theorem onGrid_whole (hpos : 0 < m) (hm : m < lastWhole) (e : Nat) :
    onGrid tie (m * one) e
      = if m / Nat.pow 10 e * Nat.pow 10 e = m then some ⟨m / Nat.pow 10 e, e⟩ else none := by
  have hfloor : m * one / (one * Nat.pow 10 e) = m / Nat.pow 10 e := by
    rw [Nat.mul_comm m, Nat.mul_div_mul_left _ _ one_pos]
  have hnext : (m / Nat.pow 10 e + 1) * Nat.pow 10 e ≠ m := by
    have habove : m < m / Nat.pow 10 e * Nat.pow 10 e + Nat.pow 10 e :=
      Nat.lt_div_mul_add (Nat.pow_pos (by decide))
    rw [Nat.succ_mul]
    exact Nat.ne_of_gt habove
  rw [onGrid_floor hfloor (by rw [inside_whole hpos hm, decide_eq_false hnext]),
    inside_whole hpos hm]
  simp only [decide_eq_true_eq]

/-- The search ends on the grid of ones, if not before. -/
theorem searchFrom_whole (hpos : 0 < m) (hm : m < lastWhole) {place fuel n : Nat}
    (hn : n ≤ place) (hfuel : place < n + fuel) :
    (searchFrom tie (m * one) place fuel n).Counts m := by
  induction fuel generalizing n with
  | zero => omega
  | succ fuel ih =>
    have hexponent : (place : Int) - n = ((place - n : Nat) : Int) := by omega
    rw [searchFrom, hexponent, onGrid_whole hpos hm]
    split
    next d hfound =>
      split at hfound
      next hdigits =>
        obtain rfl := Option.some.inj hfound
        exact ⟨_, rfl, hdigits⟩
      next => cases hfound
    next hnone =>
      have hless : n ≠ place := by
        rintro rfl
        simp at hnone
      exact ih (by omega) (by omega)

theorem shortest_whole (hpos : 0 < m) (hm : m < lastWhole) : (shortest tie (m * one)).Counts m := by
  have hdigits : (Nat.toDigits 10 m).length ≤ 16 :=
    (Nat.length_toDigits_le_iff (by decide) (by decide)).2 (Nat.lt_trans hm (by decide))
  have hplace : pointPlace (m * one) = (Nat.toDigits 10 m).length := by
    rw [pointPlace, Nat.mul_div_cancel m one_pos]
    exact if_neg (Nat.ne_of_gt hpos)
  rw [shortest, if_neg (Nat.ne_of_gt (Nat.mul_pos hpos one_pos)), hplace]
  exact (searchFrom_whole hpos hm Nat.length_toDigits_pos (by omega)).stripZeros 20

/-- A whole number is written with a zero after the point. -/
theorem dataText_whole (hm : m ≤ lastWhole) (s : Bool) :
    (finite s (m * one)).dataText = String.ofList (Json.pointZero s (Nat.toDigits 10 m)).chars := by
  rcases Nat.eq_zero_or_pos m with rfl | hpos
  · rw [Nat.zero_mul, dataText]
    rfl
  rcases Nat.eq_or_lt_of_le hm with rfl | hless
  · cases s <;> decide +kernel
  have hcounts : (shortest .even (m * one)).Counts m := shortest_whole hpos hless
  obtain ⟨hdigits, hexponent, hplain, hplace⟩ := hcounts.plain hpos
  have hlength : (Nat.toDigits 10 m).length ≤ 16 :=
    (Nat.length_toDigits_le_iff (by decide) (by decide)).2 (Nat.lt_trans hless (by decide))
  have hrange : -5 < ((Nat.toDigits 10 m).length : Int) ∧ ((Nat.toDigits 10 m).length : Int) ≤ 16 := by
    omega
  simp only [dataText, if_neg hdigits, hplace, if_pos hrange, if_pos hexponent, hplain]
  rfl

end Binary64

end StudyPlan
