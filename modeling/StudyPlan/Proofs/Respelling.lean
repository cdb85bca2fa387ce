import StudyPlan.Proofs.Raising

/-!
# Spelling a code again

The one spelling of a text is in upper case, and upper case settles.  So spelling it again
only spaces it, and a third time changes nothing (`normalizeChars_normalizeChars`).

The second time does change a text that has the loose shape in upper case only, and no
single space between its parts: a *belated* text, such as `maß101`.  The shape is looked for
before the text is put in upper case, so `maß101` becomes `MASS101`, which has the shape and
becomes `MASS 101`.  `normalize_again` says that there are no other such texts.  A belated text
has one of ten letters (`lateLetters`): of the characters beyond ASCII, only these have an
upper case of ASCII letters alone.
-/

namespace StudyPlan.Code

open Text

variable {letters blanks digits suffix cs : List Char}

/-! ## Texts of the loose shape -/

/-- A text has the loose shape. -/
def Shaped (cs : List Char) : Prop :=
  ∃ letters blanks digits suffix, Loose letters blanks digits suffix ∧
    cs = letters ++ (blanks ++ (digits ++ suffix))

theorem shaped_iff : Shaped cs ↔ (looseParts? cs).isSome = true := by
  constructor
  · rintro ⟨letters, blanks, digits, suffix, h, rfl⟩
    rw [h.looseParts?]
    rfl
  · intro h
    obtain ⟨⟨letters, number⟩, hparts⟩ := Option.isSome_iff_exists.1 h
    obtain ⟨blanks, digits, suffix, hloose, hcs, -⟩ := loose_of_looseParts? hparts
    exact ⟨letters, blanks, digits, suffix, hloose, hcs⟩

/-- Spacing a text of the loose shape puts a space in the place of its blanks. -/
theorem Loose.spaced (h : Loose letters blanks digits suffix) :
    spaced (letters ++ (blanks ++ (digits ++ suffix)))
      = letters ++ ([' '] ++ (digits ++ suffix)) := by
  rw [Code.spaced, h.trimChars, h.looseParts?]
  rfl

theorem spaced_of_not_shaped (h : ¬ Shaped (trimChars cs)) : spaced cs = trimChars cs := by
  rw [shaped_iff, Bool.not_eq_true, Option.isSome_eq_false_iff, Option.isNone_iff_eq_none] at h
  rw [spaced, h]

theorem toNat_of_isAsciiLetter {c : Char} (h : isAsciiLetter c = true) :
    65 ≤ c.toNat ∧ c.toNat ≤ 122 := by
  have hbounds : ∀ r ∈ letterRanges, 65 ≤ r.1 ∧ r.2 ≤ 122 := by decide
  obtain ⟨r, hr, hle, hle'⟩ := inRanges_iff.1 (isAsciiLetter_iff.1 h)
  exact ⟨Nat.le_trans (hbounds r hr).1 hle, Nat.le_trans hle' (hbounds r hr).2⟩

theorem upperChars_of_letters (h : ∀ c ∈ cs, isAsciiLetter c = true) :
    upperChars cs = cs.map Char.toUpper :=
  upperChars_of_ascii fun c hc =>
    Nat.lt_of_le_of_lt (toNat_of_isAsciiLetter (h c hc)).2 (by decide)

theorem Loose.suffix_letters (h : Loose letters blanks digits suffix) :
    ∀ c ∈ suffix, isAsciiLetter c = true := by
  intro c hc
  obtain rfl | ⟨x, rfl, hx⟩ := h.suffix_letter
  · cases hc
  · exact List.mem_singleton.1 hc ▸ hx

theorem Loose.kinds (h : Loose letters blanks digits suffix) {c : Char}
    (hc : c ∈ letters ++ (blanks ++ (digits ++ suffix))) :
    isAsciiLetter c = true ∨ isBlank c = true ∨ isDecimalDigit c = true := by
  simp only [List.mem_append] at hc
  rcases hc with hc | hc | hc | hc
  · exact Or.inl (h.letter c hc)
  · exact Or.inr (Or.inl (h.blank c hc))
  · exact Or.inr (Or.inr (h.digit c hc))
  · exact Or.inl (h.suffix_letters c hc)

/-- Upper case keeps the loose shape, and its blanks and digits. -/
theorem Loose.upperChars (h : Loose letters blanks digits suffix) :
    upperChars (letters ++ (blanks ++ (digits ++ suffix)))
        = letters.map Char.toUpper ++ (blanks ++ (digits ++ suffix.map Char.toUpper)) ∧
      Loose (letters.map Char.toUpper) blanks digits (suffix.map Char.toUpper) := by
  have hupper : ∀ c, isAsciiLetter c.toUpper = isAsciiLetter c :=
    congrFun isAsciiLetter_comp_toUpper
  constructor
  · rw [upperChars_append, upperChars_append, upperChars_append, upperChars_of_letters h.letter,
      upperChars_of_letters h.suffix_letters,
      upperChars_of_forall fun c hc => upperChar_of_spacing (Or.inl (h.blank c hc)),
      upperChars_of_forall fun c hc => upperChar_of_spacing (Or.inr (h.digit c hc))]
  · refine ⟨fun hnil => h.letters_ne (List.map_eq_nil_iff.1 hnil), fun c hc => ?_, h.blank,
      h.digits_ne, h.digit, ?_⟩
    · obtain ⟨a, ha, rfl⟩ := List.mem_map.1 hc
      exact (hupper a).trans (h.letter a ha)
    · obtain rfl | ⟨x, rfl, hx⟩ := h.suffix_letter
      · exact Or.inl rfl
      · exact Or.inr ⟨x.toUpper, rfl, (hupper x).trans hx⟩

/-- The one spelling of a text of the loose shape, which it has too. -/
theorem normalizeChars_of_loose (h : Loose letters blanks digits suffix)
    (hcs : trimChars cs = letters ++ (blanks ++ (digits ++ suffix))) :
    normalizeChars cs
        = letters.map Char.toUpper ++ ([' '] ++ (digits ++ suffix.map Char.toUpper)) ∧
      Loose (letters.map Char.toUpper) [' '] digits (suffix.map Char.toUpper) := by
  have hspace : Loose letters [' '] digits suffix :=
    { h with blank := fun c hc => List.mem_singleton.1 hc ▸ rfl }
  obtain ⟨hupper, hloose⟩ := hspace.upperChars
  have hspaced : spaced cs = letters ++ ([' '] ++ (digits ++ suffix)) := by
    have htrim := h.spaced
    rwa [← hcs, spaced, trimChars_trimChars, ← spaced] at htrim
  exact ⟨by rw [normalizeChars_eq, hspaced, hupper], hloose⟩

/-! ## Spelling again -/

/-- Spelling a text again only spaces it. -/
theorem normalizeChars_normalizeChars (cs : List Char) :
    normalizeChars (normalizeChars cs) = spaced (normalizeChars cs) := by
  rw [normalizeChars_eq (normalizeChars cs)]
  refine upperChars_of_forall fun c hc => ?_
  rcases mem_spaced hc with rfl | hmem
  · exact upperChar_of_spacing (Or.inl rfl)
  · rw [normalizeChars_eq] at hmem
    exact upperChar_of_mem_upperChars hmem

/-- A text that has the loose shape in upper case only, and no single space between its
parts. -/
structure Belated (cs : List Char) : Prop where
  /-- The text does not have the shape. -/
  unshaped : ¬ Shaped (trimChars cs)
  /-- Its upper case has the shape, with other blanks than one space. -/
  shaped : ∃ letters blanks digits suffix, Loose letters blanks digits suffix ∧ blanks ≠ [' '] ∧
    upperChars (trimChars cs) = letters ++ (blanks ++ (digits ++ suffix))

theorem Shaped.spaced_normalizeChars (h : Shaped (trimChars cs)) :
    spaced (normalizeChars cs) = normalizeChars cs := by
  obtain ⟨letters, blanks, digits, suffix, hloose, hcs⟩ := h
  obtain ⟨hspelt, hloose'⟩ := normalizeChars_of_loose hloose hcs
  rw [hspelt, hloose'.spaced]

theorem spaced_normalizeChars_iff (cs : List Char) :
    spaced (normalizeChars cs) = normalizeChars cs ↔ ¬ Belated cs := by
  by_cases hshaped : Shaped (trimChars cs)
  · exact iff_of_true hshaped.spaced_normalizeChars fun h => h.unshaped hshaped
  have hupper : normalizeChars cs = upperChars (trimChars cs) := by
    rw [normalizeChars_eq, spaced_of_not_shaped hshaped]
  have htrim : trimChars (normalizeChars cs) = normalizeChars cs := by
    rw [hupper, trimChars_upperChars (trimChars_trimChars cs)]
  constructor
  · rintro hspaced ⟨-, letters, blanks, digits, suffix, hloose, hne, hcs⟩
    rw [hupper, hcs, hloose.spaced] at hspaced
    exact hne (List.append_cancel_right (List.append_cancel_left hspaced)).symm
  · intro hnot
    by_cases hlate : Shaped (normalizeChars cs)
    · obtain ⟨letters, blanks, digits, suffix, hloose, hcs⟩ := hlate
      have hblanks : blanks = [' '] := Decidable.byContradiction fun hne =>
        hnot ⟨hshaped, letters, blanks, digits, suffix, hloose, hne, hupper ▸ hcs⟩
      rw [hcs, hloose.spaced, hblanks]
    · rw [spaced_of_not_shaped (htrim.symm ▸ hlate), htrim]

/-! ## Late letters -/

/-- The letters beyond ASCII whose upper case is made of ASCII letters. -/
def lateLetters : List Char := ['ß', 'ı', 'ſ', 'ﬀ', 'ﬁ', 'ﬂ', 'ﬃ', 'ﬄ', 'ﬅ', 'ﬆ']

/-- A character whose upper case may occur in a text of the loose shape, and which is no
late letter, is put in upper case as those of ASCII are. -/
theorem upperChar_of_not_late {c : Char} (hlate : c ∉ lateLetters)
    (h : ∀ d ∈ upperChar c, isAsciiLetter d = true ∨ isBlank d = true ∨ isDecimalDigit d = true) :
    upperChar c = [c.toUpper] := by
  by_cases hspacing : isBlank c = true ∨ isDecimalDigit c = true
  · rw [upperChar_of_spacing hspacing, toUpper_of_not_small (not_small_of_spacing hspacing)]
  have hletter : ∀ d ∈ upperChar c, isAsciiLetter d = true := fun d hd =>
    (h d hd).resolve_right fun hspace => hspacing (eq_of_mem_upperChar hd hspace ▸ hspace)
  have hsequences : ∀ r ∈ upperSequences,
      (∀ n ∈ r.2, isAsciiLetter (Char.ofNat n) = true) → Char.ofNat r.1 ∈ lateLetters := by
    decide +kernel
  have hruns : ∀ r ∈ upperRuns,
      122 < r.image ∨ r.first = r.last ∧ Char.ofNat r.first ∈ lateLetters := by
    decide +kernel
  rcases upperChar_cases c with ⟨-, hupper⟩ | ⟨r, hr, hkey, hupper⟩ | ⟨r, hr, k, hk, hc, hupper⟩ |
    ⟨-, hupper⟩
  · exact hupper
  · have hmem : Char.ofNat r.1 ∈ lateLetters := hsequences r hr fun n hn =>
      hletter _ (hupper ▸ List.mem_map_of_mem hn)
    rw [hkey, Char.ofNat_toNat] at hmem
    exact absurd hmem hlate
  · have himage := toNat_of_isAsciiLetter (hletter _ (hupper ▸ List.mem_singleton_self _))
    rcases hruns r hr with hlarge | ⟨hsingle, hmem⟩
    · rcases toNat_ofNat_cases (r.image + k) with heq | heq <;> omega
    · have hzero : k < r.last - r.first + 1 := List.mem_range.1 (List.mem_filter.1 hk).1
      have hfirst : r.first = c.toNat := by omega
      rw [hfirst, Char.ofNat_toNat] at hmem
      exact absurd hmem hlate
  · have hself : c ∈ upperChar c := hupper ▸ List.mem_singleton_self c
    rw [hupper, toUpper_of_not_small (not_small_of_mem_upperChar hself)]

/-- A belated text has a late letter: without one, its upper case is that of ASCII letters,
which keeps a text from getting the shape. -/
theorem Belated.exists_late (h : Belated cs) : ∃ c ∈ cs, c ∈ lateLetters := by
  by_contra hnone
  obtain ⟨letters, blanks, digits, suffix, hloose, -, hcs⟩ := h.shaped
  have hupper : ∀ c ∈ trimChars cs, upperChar c = [c.toUpper] := fun c hc =>
    upperChar_of_not_late (fun hlate => hnone ⟨c, mem_trimChars hc, hlate⟩) fun d hd =>
      hloose.kinds (hcs ▸ List.mem_flatMap.2 ⟨c, hc, hd⟩)
  have hmap : upperChars (trimChars cs) = (trimChars cs).map Char.toUpper := by
    rw [upperChars, List.flatMap_congr hupper, ← List.map_eq_flatMap]
  have hshaped : Shaped ((trimChars cs).map Char.toUpper) :=
    ⟨letters, blanks, digits, suffix, hloose, hmap ▸ hcs⟩
  rw [shaped_iff, looseParts?_map_toUpper, Option.isSome_map, ← shaped_iff] at hshaped
  exact h.unshaped hshaped

/-- Spelling a code again changes exactly the belated texts, which have a late letter, and
spelling it once more changes nothing. -/
theorem normalize_again (s : String) :
    (normalize (normalize s) = normalize s ↔ ¬ Belated s.toList) ∧
      (Belated s.toList → ∃ c ∈ s.toList, c ∈ lateLetters) ∧
      normalize (normalize (normalize s)) = normalize (normalize s) := by
  have hagain : ∀ x : String,
      normalize (normalize x) = String.ofList (spaced (normalizeChars x.toList)) := by
    intro x
    rw [normalize, normalize, String.toList_ofList, normalizeChars_normalizeChars]
  refine ⟨?_, Belated.exists_late, ?_⟩
  · rw [hagain, normalize, String.ofList_inj, spaced_normalizeChars_iff]
  · have hspaced : (normalize s).toList = normalizeChars s.toList := by
      rw [normalize, String.toList_ofList]
    rw [hagain (normalize s), hspaced, hagain, normalizeChars_normalizeChars, spaced_spaced]

/-- Spelling a code once does not always settle it. -/
theorem normalize_again_sharpS :
    normalize "maß101" = "MASS101" ∧ normalize "MASS101" = "MASS 101" ∧
      ¬ ∀ s, normalize (normalize s) = normalize s := by
  have honce : normalize "maß101" = "MASS101" := by decide +kernel
  have htwice : normalize "MASS101" = "MASS 101" := by decide +kernel
  refine ⟨honce, htwice, fun h => ?_⟩
  have hsettled := h "maß101"
  rw [honce, htwice] at hsettled
  exact absurd hsettled (by decide)

end StudyPlan.Code
