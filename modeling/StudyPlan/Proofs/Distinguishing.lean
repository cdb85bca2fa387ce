import StudyPlan.Proofs.Respelling

/-!
# Which texts have one spelling

The parts of a text of the loose shape are letters, digits and a suffix, and there is one way
to take it apart (`Loose.parts_unique`): the letters end where no letter follows, and the
digits where no digit does.  The one spelling is put together of the same parts in upper
case, and is of the loose shape again.  So it can be taken apart as well, and two texts
of the loose shape have the same spelling exactly if their parts are the same up to the
case of the letters (`normalize_eq_iff_parts`).

Its words are those parts, since neither letters nor digits are blank (`words_spelt`).

A text without the shape is only put in upper case.  So it has the spelling of one with the
shape only if its upper case has the shape, as that of `maß 101` has.
-/

namespace StudyPlan

namespace Text

theorem wordsChars_append_blank {b : Char} (hb : isBlank b = true) (before after : List Char) :
    wordsChars (before ++ b :: after) = wordsChars before ++ wordsChars after := by
  rw [wordsChars, List.splitOnP_append_cons _ _ hb, List.filter_append]
  rfl

theorem wordsChars_of_not_blank {cs : List Char} (hne : cs ≠ [])
    (h : ∀ c ∈ cs, isBlank c = false) : wordsChars cs = [cs] := by
  rw [wordsChars, List.splitOnP_eq_singleton h]
  simpa using hne

end Text

namespace Code

open Text

variable {letters blanks digits suffix letters' blanks' digits' suffix' : List Char}
  {x y : String}

/-! ## Parts -/

/-- A text of the loose shape has its parts in one way only. -/
theorem Loose.parts_unique (h : Loose letters blanks digits suffix)
    (h' : Loose letters' blanks' digits' suffix')
    (heq : letters ++ (blanks ++ (digits ++ suffix))
      = letters' ++ (blanks' ++ (digits' ++ suffix'))) :
    letters = letters' ∧ digits = digits' ∧ suffix = suffix' := by
  have hparts : some (letters, digits ++ suffix) = some (letters', digits' ++ suffix') := by
    rw [← h.looseParts?, heq, h'.looseParts?]
  obtain ⟨hletters, hnumber⟩ := Prod.mk.inj (Option.some.inj hparts)
  have hdigits : digits = digits' := by
    have htake := congrArg (List.takeWhile isDecimalDigit) hnumber
    rwa [takeWhile_append_of_head? h.digit h.suffix_not_digit,
      takeWhile_append_of_head? h'.digit h'.suffix_not_digit] at htake
  exact ⟨hletters, hdigits, List.append_cancel_left (hdigits ▸ hnumber)⟩

/-- A text spells a code of these parts: it has the loose shape, with blanks around it or
none. -/
def Spells (s : String) (letters digits suffix : List Char) : Prop :=
  ∃ blanks, Loose letters blanks digits suffix ∧
    trimChars s.toList = letters ++ (blanks ++ (digits ++ suffix))

theorem toList_normalize (s : String) : (normalize s).toList = normalizeChars s.toList :=
  String.toList_ofList

/-- The one spelling of a code: its letters, one space, its digits and its suffix. -/
theorem Spells.spelt (h : Spells x letters digits suffix) :
    (normalize x).toList
        = letters.map Char.toUpper ++ ([' '] ++ (digits ++ suffix.map Char.toUpper)) ∧
      Loose (letters.map Char.toUpper) [' '] digits (suffix.map Char.toUpper) := by
  obtain ⟨blanks, hloose, htrim⟩ := h
  rw [toList_normalize]
  exact normalizeChars_of_loose hloose htrim

theorem normalize_eq_iff_parts (hx : Spells x letters digits suffix)
    (hy : Spells y letters' digits' suffix') :
    normalize x = normalize y ↔
      letters.map Char.toUpper = letters'.map Char.toUpper ∧ digits = digits' ∧
        suffix.map Char.toUpper = suffix'.map Char.toUpper := by
  obtain ⟨hspelt, hloose⟩ := hx.spelt
  obtain ⟨hspelt', hloose'⟩ := hy.spelt
  rw [← String.toList_inj, hspelt, hspelt']
  constructor
  · intro heq
    exact hloose.parts_unique hloose' heq
  · rintro ⟨hletters, hdigits, hsuffix⟩
    rw [hletters, hdigits, hsuffix]

/-! ## Words -/

/-- The words of the one spelling are the letters and the digits with the suffix. -/
theorem words_spelt (h : Spells x letters digits suffix) :
    words (normalize x)
      = [String.ofList (letters.map Char.toUpper),
        String.ofList (digits ++ suffix.map Char.toUpper)] := by
  obtain ⟨hspelt, hloose⟩ := h.spelt
  have hletters : ∀ c ∈ letters.map Char.toUpper, isBlank c = false := fun c hc =>
    not_isBlank_of_isAsciiLetter (hloose.letter c hc)
  have hnumber : ∀ c ∈ digits ++ suffix.map Char.toUpper, isBlank c = false := fun _ hc =>
    hloose.not_isBlank hc
  have hne : digits ++ suffix.map Char.toUpper ≠ [] :=
    List.append_ne_nil_of_left_ne_nil hloose.digits_ne _
  rw [words, hspelt, List.singleton_append, wordsChars_append_blank rfl,
    wordsChars_of_not_blank hloose.letters_ne hletters, wordsChars_of_not_blank hne hnumber]
  rfl

/-! ## One spelling -/

/-- Two texts of the loose shape have one spelling exactly if their letters and suffixes are
the same in upper case and their digits are the same.  The spelling gives these parts back.
A text without the shape has that spelling only if its upper case has the shape. -/
theorem normalize_distinguishes (hx : Spells x letters digits suffix)
    (hy : Spells y letters' digits' suffix') :
    (normalize x = normalize y ↔
      letters.map Char.toUpper = letters'.map Char.toUpper ∧ digits = digits' ∧
        suffix.map Char.toUpper = suffix'.map Char.toUpper) ∧
    subject (normalize x) = String.ofList (letters.map Char.toUpper) ∧
    number (normalize x) = String.ofList (digits ++ suffix.map Char.toUpper) ∧
    ∀ z, ¬ Shaped (trim z).toList → normalize z = normalize x →
      Shaped (upper (trim z)).toList := by
  refine ⟨normalize_eq_iff_parts hx hy, ?_, ?_, fun z hz heq => ?_⟩
  · rw [subject, words_spelt hx]
    rfl
  · rw [number, words_spelt hx]
    rfl
  · obtain ⟨hspelt, hloose⟩ := hx.spelt
    have htrim : (trim z).toList = trimChars z.toList := String.toList_ofList
    have hupper : (normalize z).toList = (upper (trim z)).toList := by
      rw [toList_normalize, normalizeChars_eq, spaced_of_not_shaped (htrim ▸ hz), upper, htrim,
        String.toList_ofList]
    rw [← hupper, heq]
    exact ⟨_, _, _, _, hloose, hspelt⟩

/-- A text in small letters with many blanks, and one without any. -/
theorem normalize_distinguishes_variants :
    Spells "  cosc   304a " ['c', 'o', 's', 'c'] ['3', '0', '4'] ['a'] ∧
    Spells "COSC304A" ['C', 'O', 'S', 'C'] ['3', '0', '4'] ['A'] ∧
    normalize "  cosc   304a " = normalize "COSC304A" ∧
    subject (normalize "  cosc   304a ") = "COSC" ∧
    number (normalize "  cosc   304a ") = "304A" ∧
    ∀ z, ¬ Shaped (trim z).toList → normalize z = normalize "  cosc   304a " →
      Shaped (upper (trim z)).toList := by
  have hsmall : Spells "  cosc   304a " ['c', 'o', 's', 'c'] ['3', '0', '4'] ['a'] :=
    ⟨[' ', ' ', ' '],
      { letters_ne := List.cons_ne_nil _ _
        letter := List.all_eq_true.1 (by decide)
        blank := List.all_eq_true.1 (by decide)
        digits_ne := List.cons_ne_nil _ _
        digit := List.all_eq_true.1 (by decide)
        suffix_letter := Or.inr ⟨'a', rfl, by decide⟩ }, by decide⟩
  have hcapital : Spells "COSC304A" ['C', 'O', 'S', 'C'] ['3', '0', '4'] ['A'] :=
    ⟨[],
      { letters_ne := List.cons_ne_nil _ _
        letter := List.all_eq_true.1 (by decide)
        blank := List.all_eq_true.1 (by decide)
        digits_ne := List.cons_ne_nil _ _
        digit := List.all_eq_true.1 (by decide)
        suffix_letter := Or.inr ⟨'A', rfl, by decide⟩ }, by decide⟩
  obtain ⟨heq, hsubject, hnumber, hshapeless⟩ := normalize_distinguishes hsmall hcapital
  exact ⟨hsmall, hcapital, heq.2 (by decide), hsubject, hnumber, hshapeless⟩

end Code

end StudyPlan
