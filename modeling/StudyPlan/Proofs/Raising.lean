import StudyPlan.Proofs.Spelling

/-!
# Upper case settles

The upper case of a character beyond ASCII is read off two tables, of sequences and of
runs.  `upperChar_cases` says all that can happen to a character: it is of ASCII, or it is
the key of a sequence, or it is a point of a run, or it stays.

What holds throughout the tables is a matter of sets of code points: the points that are
mapped, the images, the blanks and the digits.  A set is kept as a number with a bit for
each of its code points, and two sets are apart if the numbers have no bit in common
(`not_mem_of_bits`).  So one conjunction of two numbers settles it for all code points
(`upper_tables`).

No image is mapped again, so upper case settles (`upperChar_of_mem_upperChar`,
`upperChars_upperChars`).  Blanks and digits are not mapped and are no images, so upper
case keeps them (`upperChar_of_spacing`) and adds none (`eq_of_mem_upperChar`).  In
particular it puts no blanks around a text (`trimChars_upperChars`).
-/

namespace StudyPlan.Text

open Code (IsSmall)

/-! ## Sets of code points -/

/-- A set of code points as a number with a bit for each. -/
def bits : List Nat → Nat
  | [] => 0
  | n :: ns => 1 <<< n ||| bits ns

theorem testBit_bits {n : Nat} {ns : List Nat} : (bits ns).testBit n = true ↔ n ∈ ns := by
  induction ns with
  | nil => simp [bits]
  | cons m ns ih =>
    have hm : (1 <<< m).testBit n = true ↔ n = m := by
      rw [Nat.one_shiftLeft, Nat.testBit_two_pow, decide_eq_true_eq, eq_comm]
    rw [bits, Nat.testBit_or, Bool.or_eq_true, hm, ih, List.mem_cons]

/-- Sets without a bit in common are apart. -/
theorem not_mem_of_bits {as bs : List Nat} (h : bits as &&& bits bs = 0) {n : Nat}
    (ha : n ∈ as) : n ∉ bs := by
  intro hb
  have hbit : (bits as &&& bits bs).testBit n = true := by
    rw [Nat.testBit_and, testBit_bits.2 ha, testBit_bits.2 hb]
    rfl
  rw [h, Nat.zero_testBit] at hbit
  cases hbit

/-- The code points of ranges. -/
def rangePoints (ranges : List CodeRange) : List Nat :=
  ranges.flatMap fun r => List.range' r.1 (r.2 - r.1 + 1)

theorem mem_rangePoints {n : Nat} {ranges : List CodeRange} (h : inRanges n ranges = true) :
    n ∈ rangePoints ranges := by
  obtain ⟨r, hr, hle, hle'⟩ := inRanges_iff.1 h
  refine List.mem_flatMap.2 ⟨r, hr, List.mem_range'_1.2 ⟨hle, ?_⟩⟩
  omega

/-! ## Runs -/

/-- How far the code points of a run are from its first. -/
def CaseRun.offsets (r : CaseRun) : List Nat :=
  (List.range (r.last - r.first + 1)).filter (· % r.step == 0)

theorem CaseRun.image?_eq_some {r : CaseRun} {n m : Nat} (h : r.image? n = some m) :
    ∃ k ∈ r.offsets, n = r.first + k ∧ m = r.image + k := by
  rw [CaseRun.image?] at h
  split at h
  next hin =>
    obtain ⟨hle, hle', hstep⟩ := hin
    refine ⟨n - r.first, List.mem_filter.2 ⟨List.mem_range.2 ?_, ?_⟩, ?_, ?_⟩
    · omega
    · exact beq_iff_eq.2 hstep
    · omega
    · exact (Option.some.inj h).symm
  next => cases h

theorem CaseRun.image?_offset {r : CaseRun} (hr : r.first ≤ r.last) {k : Nat}
    (h : k ∈ r.offsets) : r.image? (r.first + k) = some (r.image + k) := by
  obtain ⟨hrange, hstep⟩ := List.mem_filter.1 h
  have hlt := List.mem_range.1 hrange
  have hdist : r.first + k - r.first = k := Nat.add_sub_cancel_left ..
  rw [CaseRun.image?, hdist, if_pos ⟨Nat.le_add_right .., by omega, beq_iff_eq.1 hstep⟩]

/-! ## What upper case does -/

/-- The code points that the tables of upper case map. -/
def upperPoints : List Nat :=
  upperSequences.map (·.1) ++ upperRuns.flatMap fun r => r.offsets.map (r.first + ·)

/-- The code points to which the tables of upper case map others. -/
def upperImages : List Nat :=
  upperSequences.flatMap (·.2) ++ upperRuns.flatMap fun r => r.offsets.map (r.image + ·)

/-- The ranges of the blanks and the digits. -/
def spacingRanges : List CodeRange := Code.blankRanges ++ decimalDigitRanges

/-- All that the tables are gone through for: runs and sequences are not empty, no point that
is mapped is of ASCII or an image, and no blank and no digit is mapped, an image or zero. -/
theorem upper_tables :
    (∀ r ∈ upperRuns, r.first ≤ r.last) ∧ (∀ r ∈ upperSequences, r.2 ≠ []) ∧
    bits (List.range 128 ++ upperImages) &&& bits upperPoints = 0 ∧
    bits (0 :: (upperImages ++ upperPoints)) &&& bits (rangePoints spacingRanges) = 0 := by
  decide +kernel

theorem key_mem_upperPoints {r : Nat × List Nat} (h : r ∈ upperSequences) :
    r.1 ∈ upperPoints :=
  List.mem_append_left _ (List.mem_map_of_mem h)

theorem offset_mem_upperPoints {r : CaseRun} (h : r ∈ upperRuns) {k : Nat}
    (hk : k ∈ r.offsets) : r.first + k ∈ upperPoints :=
  List.mem_append_right _ (List.mem_flatMap.2 ⟨r, h, List.mem_map_of_mem hk⟩)

/-- What upper case does with a character: it is of ASCII, or it has a sequence, or it is in
a run, or it stays. -/
theorem upperChar_cases (c : Char) :
    (c.toNat < 128 ∧ upperChar c = [c.toUpper]) ∨
    (∃ r ∈ upperSequences, r.1 = c.toNat ∧ upperChar c = r.2.map Char.ofNat) ∨
    (∃ r ∈ upperRuns, ∃ k ∈ r.offsets,
      r.first + k = c.toNat ∧ upperChar c = [Char.ofNat (r.image + k)]) ∨
    (c.toNat ∉ upperPoints ∧ upperChar c = [c]) := by
  by_cases hascii : c.toNat < 128
  · exact Or.inl ⟨hascii, if_pos hascii⟩
  right
  have hupper : upperChar c = mapCase upperSequences upperRuns c := if_neg hascii
  rw [hupper, mapCase]
  cases hlookup : upperSequences.lookup c.toNat with
  | some image =>
    obtain ⟨before, after, hsplit, -⟩ := List.lookup_eq_some_iff.1 hlookup
    exact Or.inl ⟨(c.toNat, image), by simp [hsplit], rfl, rfl⟩
  | none =>
    cases hrun : upperRuns.findSome? (·.image? c.toNat) with
    | some n =>
      obtain ⟨r, hr, himage⟩ := List.exists_of_findSome?_eq_some hrun
      obtain ⟨k, hk, hc, rfl⟩ := CaseRun.image?_eq_some himage
      exact Or.inr (Or.inl ⟨r, hr, k, hk, hc.symm, rfl⟩)
    | none =>
      refine Or.inr (Or.inr ⟨fun hmem => ?_, rfl⟩)
      cases List.mem_append.1 hmem with
      | inl hkey =>
        obtain ⟨r, hr, hkey⟩ := List.mem_map.1 hkey
        have hne := List.lookup_eq_none_iff.1 hlookup r hr
        simp [hkey] at hne
      | inr hpoint =>
        obtain ⟨r, hr, hpoint⟩ := List.mem_flatMap.1 hpoint
        obtain ⟨k, hk, hc⟩ := List.mem_map.1 hpoint
        have hnone := List.findSome?_eq_none_iff.1 hrun r hr
        rw [← hc, CaseRun.image?_offset (upper_tables.1 r hr) hk] at hnone
        cases hnone

/-- What the upper case of a character is made of.  A code point that is none of a
character counts as 0. -/
theorem mem_upperChar {c d : Char} (h : d ∈ upperChar c) :
    (c.toNat < 128 ∧ d = c.toUpper) ∨ d.toNat = 0 ∨ d.toNat ∈ upperImages ∨
      (d = c ∧ c.toNat ∉ upperPoints) := by
  have himage : ∀ n ∈ upperImages,
      (Char.ofNat n).toNat = 0 ∨ (Char.ofNat n).toNat ∈ upperImages := by
    intro n hn
    cases Code.toNat_ofNat_cases n with
    | inl heq => exact Or.inr (heq.symm ▸ hn)
    | inr hzero => exact Or.inl hzero
  rcases upperChar_cases c with ⟨hascii, hupper⟩ | ⟨r, hr, -, hupper⟩ | ⟨r, hr, k, hk, -, hupper⟩ |
    ⟨hpoint, hupper⟩
  all_goals rw [hupper] at h
  · exact Or.inl ⟨hascii, List.mem_singleton.1 h⟩
  · obtain ⟨n, hn, rfl⟩ := List.mem_map.1 h
    have hmem : n ∈ upperImages := List.mem_append_left _ (List.mem_flatMap.2 ⟨r, hr, hn⟩)
    exact Or.inr (or_assoc.1 (Or.inl (himage n hmem)))
  · obtain rfl := List.mem_singleton.1 h
    have hmem : r.image + k ∈ upperImages :=
      List.mem_append_right _ (List.mem_flatMap.2 ⟨r, hr, List.mem_map_of_mem hk⟩)
    exact Or.inr (or_assoc.1 (Or.inl (himage _ hmem)))
  · exact Or.inr (Or.inr (Or.inr ⟨List.mem_singleton.1 h, hpoint⟩))

theorem upperChar_ne_nil (c : Char) : upperChar c ≠ [] := by
  rcases upperChar_cases c with ⟨-, hupper⟩ | ⟨r, hr, -, hupper⟩ | ⟨r, -, k, -, -, hupper⟩ |
    ⟨-, hupper⟩
  all_goals rw [hupper]
  · exact List.cons_ne_nil _ _
  · exact fun h => upper_tables.2.1 r hr (List.map_eq_nil_iff.1 h)
  · exact List.cons_ne_nil _ _
  · exact List.cons_ne_nil _ _

/-- A character stays in upper case if it is no small letter of ASCII and the tables do
not map it. -/
theorem upperChar_eq_self {c : Char} (hsmall : ¬ IsSmall c) (hpoint : c.toNat ∉ upperPoints) :
    upperChar c = [c] := by
  rcases upperChar_cases c with ⟨-, hupper⟩ | ⟨r, hr, hkey, -⟩ | ⟨r, hr, k, hk, hc, -⟩ |
    ⟨-, hupper⟩
  · rw [hupper, Code.toUpper_of_not_small hsmall]
  · exact absurd (hkey ▸ key_mem_upperPoints hr) hpoint
  · exact absurd (hc ▸ offset_mem_upperPoints hr hk) hpoint
  · exact hupper

/-! ## Upper case of upper case -/

theorem not_mem_upperPoints_of_ascii {n : Nat} (h : n < 128) : n ∉ upperPoints :=
  not_mem_of_bits upper_tables.2.2.1 (List.mem_append_left _ (List.mem_range.2 h))

theorem not_mem_upperPoints_of_image {n : Nat} (h : n ∈ upperImages) : n ∉ upperPoints :=
  not_mem_of_bits upper_tables.2.2.1 (List.mem_append_right _ h)

/-- Upper case settles. -/
theorem upperChar_of_mem_upperChar {c d : Char} (h : d ∈ upperChar c) : upperChar d = [d] := by
  refine upperChar_eq_self (Code.not_small_of_mem_upperChar h) ?_
  rcases mem_upperChar h with ⟨hascii, rfl⟩ | hzero | himage | ⟨rfl, hpoint⟩
  · exact not_mem_upperPoints_of_ascii (Code.toUpper_lt hascii)
  · rw [hzero]
    exact not_mem_upperPoints_of_ascii (by decide)
  · exact not_mem_upperPoints_of_image himage
  · exact hpoint

theorem upperChars_of_forall {cs : List Char} (h : ∀ c ∈ cs, upperChar c = [c]) :
    upperChars cs = cs := by
  rw [upperChars, List.flatMap_congr h, List.flatMap_singleton']

theorem upperChar_of_mem_upperChars {cs : List Char} {d : Char} (h : d ∈ upperChars cs) :
    upperChar d = [d] := by
  obtain ⟨c, -, hc⟩ := List.mem_flatMap.1 h
  exact upperChar_of_mem_upperChar hc

theorem upperChars_upperChars (cs : List Char) : upperChars (upperChars cs) = upperChars cs :=
  upperChars_of_forall fun _ => upperChar_of_mem_upperChars

/-! ## Blanks and digits -/

theorem not_mem_spacing_of_case {n : Nat} (h : n ∈ 0 :: (upperImages ++ upperPoints)) :
    n ∉ rangePoints spacingRanges :=
  not_mem_of_bits upper_tables.2.2.2 h

section Spacing

variable {c d : Char}

theorem mem_spacing (h : isBlank c = true ∨ isDecimalDigit c = true) :
    c.toNat ∈ rangePoints spacingRanges := by
  rw [Code.isBlank_eq, isDecimalDigit, inRanges_iff, inRanges_iff] at h
  refine mem_rangePoints (inRanges_iff.2 ?_)
  rcases h with ⟨r, hr, hin⟩ | ⟨r, hr, hin⟩
  · exact ⟨r, List.mem_append_left _ hr, hin⟩
  · exact ⟨r, List.mem_append_right _ hr, hin⟩

theorem not_letter_of_spacing (h : isBlank c = true ∨ isDecimalDigit c = true) :
    Code.isAsciiLetter c = false := by
  refine Bool.eq_false_iff.2 fun hletter => ?_
  cases h with
  | inl hb => exact Bool.noConfusion (hb.symm.trans (Code.not_isBlank_of_isAsciiLetter hletter))
  | inr hd =>
    exact Bool.noConfusion (hd.symm.trans (Code.not_isDecimalDigit_of_isAsciiLetter hletter))

theorem not_small_of_spacing (h : isBlank c = true ∨ isDecimalDigit c = true) : ¬ IsSmall c :=
  fun hsmall => Bool.noConfusion
    ((Code.isAsciiLetter_of_small hsmall).1.symm.trans (not_letter_of_spacing h))

theorem upperChar_of_spacing (h : isBlank c = true ∨ isDecimalDigit c = true) :
    upperChar c = [c] :=
  upperChar_eq_self (not_small_of_spacing h) fun hpoint =>
    not_mem_spacing_of_case (List.mem_cons_of_mem _ (List.mem_append_right _ hpoint))
      (mem_spacing h)

/-- A blank or a digit of upper case was there before. -/
theorem eq_of_mem_upperChar (h : d ∈ upperChar c)
    (hd : isBlank d = true ∨ isDecimalDigit d = true) : d = c := by
  rcases mem_upperChar h with ⟨-, rfl⟩ | hzero | himage | ⟨rfl, -⟩
  · have hblank : isBlank c.toUpper = isBlank c := congrFun Code.isBlank_comp_toUpper c
    have hdigit : isDecimalDigit c.toUpper = isDecimalDigit c :=
      congrFun Code.isDecimalDigit_comp_toUpper c
    rw [hblank, hdigit] at hd
    exact Code.toUpper_of_not_small (not_small_of_spacing hd)
  · exact absurd (mem_spacing hd) (not_mem_spacing_of_case (hzero ▸ List.mem_cons_self ..))
  · exact absurd (mem_spacing hd)
      (not_mem_spacing_of_case (List.mem_cons_of_mem _ (List.mem_append_left _ himage)))
  · rfl

theorem not_isBlank_of_mem_upperChar (hc : isBlank c = false) (h : d ∈ upperChar c) :
    isBlank d = false := by
  refine Bool.eq_false_iff.2 fun hd => ?_
  rw [← eq_of_mem_upperChar h (Or.inl hd), hd] at hc
  cases hc

end Spacing

/-- Upper case puts no blanks around a text. -/
theorem trimChars_upperChars {cs : List Char} (h : trimChars cs = cs) :
    trimChars (upperChars cs) = upperChars cs := by
  refine trimChars_eq_self (fun c hc => ?_) fun c hc => ?_
  · cases cs with
    | nil => cases hc
    | cons a as =>
      have hhead : a ∈ (trimChars (a :: as)).head? := by
        rw [h]
        rfl
      rw [upperChars, List.flatMap_cons, List.head?_append_of_ne_nil _ (upperChar_ne_nil a)] at hc
      exact not_isBlank_of_mem_upperChar (head?_trimChars hhead) (List.mem_of_head? hc)
  · rcases List.eq_nil_or_concat' cs with rfl | ⟨as, a, rfl⟩
    · cases hc
    · have hlast : a ∈ (trimChars (as ++ [a])).getLast? := by
        rw [h]
        exact List.getLast?_concat
      rw [upperChars_append, upperChars, upperChars, List.flatMap_singleton,
        List.getLast?_append_of_ne_nil _ (upperChar_ne_nil a)] at hc
      exact not_isBlank_of_mem_upperChar (getLast?_trimChars hlast) (List.mem_of_getLast? hc)

end StudyPlan.Text
