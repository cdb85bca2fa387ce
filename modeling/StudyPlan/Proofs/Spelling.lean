import Mathlib.Data.List.Basic
import StudyPlan.Course.Code

/-!
# The one spelling of a code

`Code.normalize` does two things, and they are looked at apart.  *Spacing* trims a
text and, if it has the loose shape, puts one space between its parts; the rest is
putting it in upper case (`normalizeChars_eq`).

Spacing twice is spacing once (`spaced_spaced`): the parts of a spaced text are the
parts that it was made of, since letters, blanks and digits exclude each other.
Spacing looks only at letters, blanks and digits, and ASCII upper case leaves every
character what it is of these.  So the two can be exchanged in an ASCII text, and
such a text has its one spelling after one step (`normalize_normalize`).

Upper case leaves no small ASCII letter, whatever the text (`not_small_of_mem_upper`).
-/

namespace StudyPlan

open Text

/-! ## Trimming -/

namespace Text

variable {cs : List Char}

theorem dropWhile_eq_self {p : Char → Bool} (h : ∀ c ∈ cs.head?, p c = false) :
    cs.dropWhile p = cs := by
  cases cs with
  | nil => rfl
  | cons c cs => simp [h c rfl]

theorem trimChars_eq_self (hh : ∀ c ∈ cs.head?, isBlank c = false)
    (hl : ∀ c ∈ cs.getLast?, isBlank c = false) : trimChars cs = cs := by
  have hrev : ∀ c ∈ cs.reverse.head?, isBlank c = false := by
    rwa [List.head?_reverse]
  rw [trimChars, dropWhile_eq_self hh, trimEndChars, dropWhile_eq_self hrev, List.reverse_reverse]

theorem head?_dropWhile {p : Char → Bool} {c : Char} (h : c ∈ (cs.dropWhile p).head?) :
    p c = false := by
  have hnot := List.head?_dropWhile_not p cs
  rw [Option.mem_def.1 h] at hnot
  exact hnot

theorem head?_trimChars {c : Char} (h : c ∈ (trimChars cs).head?) : isBlank c = false := by
  -- What is trimmed at the end stands behind the trimmed text.
  have hsplit : trimChars cs ++ ((cs.dropWhile isBlank).reverse.takeWhile isBlank).reverse
      = cs.dropWhile isBlank := by
    rw [trimChars, trimEndChars, ← List.reverse_append, List.takeWhile_append_dropWhile,
      List.reverse_reverse]
  have hhead : c ∈ (cs.dropWhile isBlank).head? := by
    rw [← hsplit, List.head?_append, Option.mem_def.1 h]
    rfl
  exact head?_dropWhile hhead

theorem getLast?_trimChars {c : Char} (h : c ∈ (trimChars cs).getLast?) : isBlank c = false := by
  rw [trimChars, trimEndChars, List.getLast?_reverse] at h
  exact head?_dropWhile h

theorem trimChars_trimChars (cs : List Char) : trimChars (trimChars cs) = trimChars cs :=
  trimChars_eq_self (fun _ h => head?_trimChars h) fun _ h => getLast?_trimChars h

theorem trimChars_map {f : Char → Char} (hf : isBlank ∘ f = isBlank) (cs : List Char) :
    trimChars (cs.map f) = (trimChars cs).map f := by
  simp only [trimChars, trimEndChars, List.dropWhile_map, hf, ← List.map_reverse]

end Text

namespace Code

/-! ## Letters, blanks and digits -/

/-- No code point is in a range of both lists. -/
def Apart (as bs : List CodeRange) : Prop := ∀ a ∈ as, ∀ b ∈ bs, a.2 < b.1 ∨ b.2 < a.1

theorem Apart.not_inRanges {as bs : List CodeRange} (h : Apart as bs) {n : Nat}
    (hn : inRanges n as = true) : inRanges n bs = false := by
  refine Bool.eq_false_iff.2 fun hb => ?_
  obtain ⟨a, ha, hale, hlea⟩ := inRanges_iff.1 hn
  obtain ⟨b, hb, hble, hleb⟩ := inRanges_iff.1 hb
  cases h a ha b hb with
  | inl hlt => exact absurd (Nat.le_trans hble hlea) (Nat.not_le_of_lt hlt)
  | inr hlt => exact absurd (Nat.le_trans hale hleb) (Nat.not_le_of_lt hlt)

/-- The ranges of the blanks. -/
def blankRanges : List CodeRange :=
  [(9, 13), (0x20, 0x20), (0x85, 0x85), (0xA0, 0xA0), (0x1680, 0x1680), (0x2000, 0x200A),
    (0x2028, 0x2028), (0x2029, 0x2029), (0x202F, 0x202F), (0x205F, 0x205F), (0x3000, 0x3000)]

/-- The ranges of the ASCII letters. -/
def letterRanges : List CodeRange := [(65, 90), (97, 122)]

theorem isBlank_eq (c : Char) : isBlank c = inRanges c.toNat blankRanges := by
  have hpoint : ∀ m n : Nat, (n == m) = (decide (m ≤ n) && decide (n ≤ m)) := by
    intro m n
    rw [Bool.eq_iff_iff, beq_iff_eq, Bool.and_eq_true, decide_eq_true_eq, decide_eq_true_eq,
      eq_comm, Nat.le_antisymm_iff]
  simp only [isBlank, inRanges, blankRanges, hpoint, Bool.or_assoc, Bool.or_false]

theorem isAsciiLetter_iff {c : Char} :
    isAsciiLetter c = true ↔ inRanges c.toNat letterRanges = true := by
  simp only [isAsciiLetter, inRanges, letterRanges, Bool.or_eq_true, Bool.and_eq_true,
    decide_eq_true_eq, Char.le_def, UInt32.le_iff_toNat_le, Bool.or_false]
  rfl

theorem not_isBlank_of_isDecimalDigit {c : Char} (h : isDecimalDigit c = true) :
    isBlank c = false := by
  have hapart : Apart decimalDigitRanges blankRanges := by unfold Apart; decide
  exact (isBlank_eq c).trans (hapart.not_inRanges h)

theorem not_isBlank_of_isAsciiLetter {c : Char} (h : isAsciiLetter c = true) :
    isBlank c = false := by
  have hapart : Apart letterRanges blankRanges := by unfold Apart; decide
  exact (isBlank_eq c).trans (hapart.not_inRanges (isAsciiLetter_iff.1 h))

theorem not_isDecimalDigit_of_isAsciiLetter {c : Char} (h : isAsciiLetter c = true) :
    isDecimalDigit c = false := by
  have hapart : Apart letterRanges decimalDigitRanges := by unfold Apart; decide
  exact hapart.not_inRanges (isAsciiLetter_iff.1 h)

/-! ## The loose shape -/

/-- The parts of a text of the loose shape: letters, blanks, digits, and perhaps one
more letter. -/
structure Loose (letters blanks digits suffix : List Char) : Prop where
  letters_ne : letters ≠ []
  letter : ∀ c ∈ letters, isAsciiLetter c = true
  blank : ∀ c ∈ blanks, isBlank c = true
  digits_ne : digits ≠ []
  digit : ∀ c ∈ digits, isDecimalDigit c = true
  suffix_letter : suffix = [] ∨ ∃ c, suffix = [c] ∧ isAsciiLetter c = true

theorem of_mem_takeWhile {p : Char → Bool} {cs : List Char} {c : Char}
    (h : c ∈ cs.takeWhile p) : p c = true :=
  List.all_eq_true.1 List.all_takeWhile c h

/-- A text that has parts is of the loose shape. -/
theorem loose_of_looseParts? {cs letters number : List Char}
    (h : looseParts? cs = some (letters, number)) :
    ∃ blanks digits suffix, Loose letters blanks digits suffix ∧
      cs = letters ++ (blanks ++ (digits ++ suffix)) ∧ number = digits ++ suffix := by
  have hcs : cs = cs.takeWhile isAsciiLetter ++
      ((cs.dropWhile isAsciiLetter).takeWhile isBlank ++
        (((cs.dropWhile isAsciiLetter).dropWhile isBlank).takeWhile isDecimalDigit ++
          ((cs.dropWhile isAsciiLetter).dropWhile isBlank).dropWhile isDecimalDigit)) := by
    simp only [List.takeWhile_append_dropWhile]
  simp only [looseParts?, List.isEmpty_iff] at h
  split at h
  · cases h
  next hne =>
    obtain ⟨hletters, hdigits⟩ := not_or.1 hne
    have hloose : ∀ suffix, (suffix = [] ∨ ∃ c, suffix = [c] ∧ isAsciiLetter c = true) →
        Loose (cs.takeWhile isAsciiLetter) ((cs.dropWhile isAsciiLetter).takeWhile isBlank)
          (((cs.dropWhile isAsciiLetter).dropWhile isBlank).takeWhile isDecimalDigit) suffix :=
      fun suffix hs => ⟨hletters, fun _ => of_mem_takeWhile, fun _ => of_mem_takeWhile, hdigits,
        fun _ => of_mem_takeWhile, hs⟩
    split at h
    next hrest =>
      obtain ⟨rfl, rfl⟩ := Prod.mk.inj (Option.some.inj h)
      rw [hrest] at hcs
      exact ⟨_, _, [], hloose [] (Or.inl rfl), hcs, (List.append_nil _).symm⟩
    next c hrest =>
      split at h
      next hc =>
        obtain ⟨rfl, rfl⟩ := Prod.mk.inj (Option.some.inj h)
        rw [hrest] at hcs
        exact ⟨_, _, [c], hloose [c] (Or.inr ⟨c, rfl, hc⟩), hcs, rfl⟩
      · cases h
    · cases h

theorem takeWhile_append_of_head? {p : Char → Bool} {as bs : List Char}
    (ha : ∀ c ∈ as, p c = true) (hb : ∀ c ∈ bs.head?, p c = false) :
    (as ++ bs).takeWhile p = as := by
  rw [List.takeWhile_append_of_pos ha]
  cases bs with
  | nil => exact List.append_nil _
  | cons b bs => simp [hb b rfl]

theorem dropWhile_append_of_head? {p : Char → Bool} {as bs : List Char}
    (ha : ∀ c ∈ as, p c = true) (hb : ∀ c ∈ bs.head?, p c = false) :
    (as ++ bs).dropWhile p = bs := by
  rw [List.dropWhile_append_of_pos ha, Text.dropWhile_eq_self hb]

section Parts

variable {letters blanks digits suffix : List Char}

theorem Loose.suffix_not_digit (h : Loose letters blanks digits suffix) :
    ∀ c ∈ suffix.head?, isDecimalDigit c = false := by
  intro c hc
  obtain rfl | ⟨x, rfl, hx⟩ := h.suffix_letter
  · cases hc
  · obtain rfl := Option.some.inj hc
    exact not_isDecimalDigit_of_isAsciiLetter hx

theorem Loose.not_isBlank (h : Loose letters blanks digits suffix) {c : Char}
    (hc : c ∈ digits ++ suffix) : isBlank c = false := by
  cases List.mem_append.1 hc with
  | inl hd => exact not_isBlank_of_isDecimalDigit (h.digit c hd)
  | inr hs =>
    obtain rfl | ⟨x, rfl, hx⟩ := h.suffix_letter
    · cases hs
    · exact not_isBlank_of_isAsciiLetter (List.mem_singleton.1 hs ▸ hx)

theorem Loose.rest_not_letter (h : Loose letters blanks digits suffix) :
    ∀ c ∈ (blanks ++ (digits ++ suffix)).head?, isAsciiLetter c = false := by
  intro c hc
  cases hb : blanks with
  | cons b bs =>
    subst hb
    obtain rfl := Option.some.inj hc
    refine Bool.eq_false_iff.2 fun hl => ?_
    exact Bool.noConfusion ((not_isBlank_of_isAsciiLetter hl).symm.trans
      (h.blank b (List.mem_cons_self ..)))
  | nil =>
    subst hb
    cases hd : digits with
    | nil => exact absurd hd h.digits_ne
    | cons d ds =>
      subst hd
      obtain rfl := Option.some.inj hc
      refine Bool.eq_false_iff.2 fun hl => ?_
      exact Bool.noConfusion ((not_isDecimalDigit_of_isAsciiLetter hl).symm.trans
        (h.digit d (List.mem_cons_self ..)))

/-- The parts of a text of the loose shape. -/
theorem Loose.looseParts? (h : Loose letters blanks digits suffix) :
    Code.looseParts? (letters ++ (blanks ++ (digits ++ suffix)))
      = some (letters, digits ++ suffix) := by
  have hne : ¬ (letters = [] ∨ digits = []) := not_or.2 ⟨h.letters_ne, h.digits_ne⟩
  simp only [Code.looseParts?, takeWhile_append_of_head? h.letter h.rest_not_letter,
    dropWhile_append_of_head? h.letter h.rest_not_letter,
    dropWhile_append_of_head? h.blank fun _ hc => h.not_isBlank (List.mem_of_head? hc),
    takeWhile_append_of_head? h.digit h.suffix_not_digit,
    dropWhile_append_of_head? h.digit h.suffix_not_digit, List.isEmpty_iff, if_neg hne]
  obtain rfl | ⟨c, rfl, hc⟩ := h.suffix_letter
  · simp
  · simp [hc]

/-- A text of the loose shape has no blanks at its ends. -/
theorem Loose.trimChars (h : Loose letters blanks digits suffix) :
    trimChars (letters ++ (blanks ++ (digits ++ suffix)))
      = letters ++ (blanks ++ (digits ++ suffix)) := by
  have hne : digits ++ suffix ≠ [] := List.append_ne_nil_of_left_ne_nil h.digits_ne _
  refine trimChars_eq_self (fun c hc => ?_) fun c hc => ?_
  · rw [List.head?_append_of_ne_nil _ h.letters_ne] at hc
    exact not_isBlank_of_isAsciiLetter (h.letter c (List.mem_of_head? hc))
  · rw [← List.append_assoc, List.getLast?_append_of_ne_nil _ hne] at hc
    exact h.not_isBlank (List.mem_of_getLast? hc)

end Parts

/-! ## Spacing -/

/-- A text without blanks around it, and with one space between its parts if it has
the loose shape. -/
def spaced (cs : List Char) : List Char :=
  match looseParts? (trimChars cs) with
  | some (letters, number) => letters ++ ' ' :: number
  | none => trimChars cs

theorem normalizeChars_eq (cs : List Char) : normalizeChars cs = upperChars (spaced cs) := by
  unfold normalizeChars spaced
  cases looseParts? (trimChars cs) with
  | none => rfl
  | some parts => exact (upperChars_append parts.1 (' ' :: parts.2)).symm

/-- Spacing twice is spacing once. -/
theorem spaced_spaced (cs : List Char) : spaced (spaced cs) = spaced cs := by
  cases hparts : looseParts? (trimChars cs) with
  | none =>
    have hcs : spaced cs = trimChars cs := by simp only [spaced, hparts]
    rw [hcs, spaced, trimChars_trimChars, hparts]
  | some parts =>
    obtain ⟨letters, number⟩ := parts
    obtain ⟨blanks, digits, suffix, h, -, rfl⟩ := loose_of_looseParts? hparts
    have hspace : Loose letters [' '] digits suffix :=
      { h with blank := fun c hc => List.mem_singleton.1 hc ▸ rfl }
    have hcs : spaced cs = letters ++ ([' '] ++ (digits ++ suffix)) := by
      simp only [spaced, hparts, List.cons_append, List.nil_append]
    rw [hcs, spaced, hspace.trimChars, hspace.looseParts?]
    rfl

/-! ## Upper case -/

/-- Every character is an ASCII one. -/
def IsAscii (cs : List Char) : Prop := ∀ c ∈ cs, c.toNat < 128

instance (cs : List Char) : Decidable (IsAscii cs) :=
  List.decidableBAll _ cs

/-- A small ASCII letter. -/
def IsSmall (c : Char) : Prop := 97 ≤ c.toNat ∧ c.toNat ≤ 122

theorem toUpper_of_not_small {c : Char} (h : ¬ IsSmall c) : c.toUpper = c := by
  have hval : ¬ ('a'.val ≤ c.val ∧ c.val ≤ 'z'.val) := by
    rintro ⟨hle, hle'⟩
    exact h ⟨UInt32.le_iff_toNat_le.1 hle, UInt32.le_iff_toNat_le.1 hle'⟩
  exact dif_neg hval

theorem toNat_toUpper_of_small {c : Char} (h : IsSmall c) : c.toUpper.toNat = c.toNat - 32 := by
  have hall : ∀ n < 123, 97 ≤ n → (Char.ofNat n).toUpper.toNat = n - 32 := by decide
  have hc := hall c.toNat (Nat.lt_succ_of_le h.2) h.1
  rwa [Char.ofNat_toNat] at hc

theorem isAsciiLetter_of_small {c : Char} (h : IsSmall c) :
    isAsciiLetter c = true ∧ isAsciiLetter c.toUpper = true := by
  simp only [isAsciiLetter_iff, inRanges_iff, letterRanges, toNat_toUpper_of_small h]
  unfold IsSmall at h
  exact ⟨⟨(97, 122), by simp, h⟩, ⟨(65, 90), by simp, by omega, by omega⟩⟩

theorem toUpper_not_small (c : Char) : ¬ IsSmall c.toUpper := by
  by_cases h : IsSmall c
  · unfold IsSmall at *
    rw [toNat_toUpper_of_small h]
    omega
  · rwa [toUpper_of_not_small h]

theorem toUpper_toUpper (c : Char) : c.toUpper.toUpper = c.toUpper :=
  toUpper_of_not_small (toUpper_not_small c)

theorem toUpper_lt {c : Char} (h : c.toNat < 128) : c.toUpper.toNat < 128 := by
  by_cases hs : IsSmall c
  · rw [toNat_toUpper_of_small hs]
    exact Nat.lt_of_le_of_lt (Nat.sub_le _ _) h
  · rwa [toUpper_of_not_small hs]

/-- ASCII upper case does not change what is the same for all letters. -/
theorem comp_toUpper {p : Char → Bool} {b : Bool} (h : ∀ {c}, isAsciiLetter c = true → p c = b) :
    p ∘ Char.toUpper = p := by
  funext c
  by_cases hs : IsSmall c
  · obtain ⟨hc, hupper⟩ := isAsciiLetter_of_small hs
    exact (h hupper).trans (h hc).symm
  · exact congrArg p (toUpper_of_not_small hs)

theorem isBlank_comp_toUpper : isBlank ∘ Char.toUpper = isBlank :=
  comp_toUpper not_isBlank_of_isAsciiLetter

theorem isAsciiLetter_comp_toUpper : isAsciiLetter ∘ Char.toUpper = isAsciiLetter :=
  comp_toUpper id

theorem isDecimalDigit_comp_toUpper : isDecimalDigit ∘ Char.toUpper = isDecimalDigit :=
  comp_toUpper not_isDecimalDigit_of_isAsciiLetter

theorem upperChars_of_ascii {cs : List Char} (h : IsAscii cs) :
    upperChars cs = cs.map Char.toUpper := by
  induction cs with
  | nil => rfl
  | cons c cs ih =>
    have hc : upperChar c = [c.toUpper] := if_pos (h c (List.mem_cons_self ..))
    rw [upperChars, List.flatMap_cons, hc, List.map_cons,
      ← ih fun d hd => h d (List.mem_cons_of_mem _ hd)]
    rfl

theorem IsAscii.map_toUpper {cs : List Char} (h : IsAscii cs) : IsAscii (cs.map Char.toUpper) := by
  intro c hc
  obtain ⟨d, hd, rfl⟩ := List.mem_map.1 hc
  exact toUpper_lt (h d hd)

/-- The parts of a text in ASCII upper case. -/
theorem looseParts?_map_toUpper (cs : List Char) :
    looseParts? (cs.map Char.toUpper)
      = (looseParts? cs).map fun (letters, number) =>
          (letters.map Char.toUpper, number.map Char.toUpper) := by
  simp only [looseParts?, List.takeWhile_map, List.dropWhile_map, isBlank_comp_toUpper,
    isAsciiLetter_comp_toUpper, isDecimalDigit_comp_toUpper, List.isEmpty_map]
  split
  · rfl
  · cases ((cs.dropWhile isAsciiLetter).dropWhile isBlank).dropWhile isDecimalDigit with
    | nil => rfl
    | cons c rest =>
      cases rest with
      | nil =>
        have hc : isAsciiLetter c.toUpper = isAsciiLetter c :=
          congrFun isAsciiLetter_comp_toUpper c
        simp only [List.map_cons, List.map_nil, hc]
        split
        · simp
        · rfl
      | cons d rest => rfl

/-- Spacing and ASCII upper case can be exchanged. -/
theorem spaced_map_toUpper (cs : List Char) :
    spaced (cs.map Char.toUpper) = (spaced cs).map Char.toUpper := by
  rw [spaced, trimChars_map isBlank_comp_toUpper, looseParts?_map_toUpper, spaced]
  cases looseParts? (trimChars cs) with
  | none => rfl
  | some parts => simp

theorem mem_trimChars {cs : List Char} {c : Char} (h : c ∈ trimChars cs) : c ∈ cs := by
  rw [trimChars, trimEndChars, List.mem_reverse] at h
  have hdrop := (List.dropWhile_sublist _).subset h
  exact (List.dropWhile_sublist _).subset (List.mem_reverse.1 hdrop)

/-- Spacing adds no characters but spaces. -/
theorem mem_spaced {cs : List Char} {c : Char} (h : c ∈ spaced cs) : c = ' ' ∨ c ∈ cs := by
  cases hparts : looseParts? (trimChars cs) with
  | none =>
    simp only [spaced, hparts] at h
    exact Or.inr (mem_trimChars h)
  | some parts =>
    obtain ⟨letters, number⟩ := parts
    obtain ⟨blanks, digits, suffix, -, hcs, rfl⟩ := loose_of_looseParts? hparts
    simp only [spaced, hparts, List.mem_append, List.mem_cons] at h
    have hmem : c ∈ letters ∨ c ∈ digits ∨ c ∈ suffix → c ∈ trimChars cs := by
      rw [hcs]
      simp only [List.mem_append]
      rintro (hl | hd | hs)
      · exact Or.inl hl
      · exact Or.inr (Or.inr (Or.inl hd))
      · exact Or.inr (Or.inr (Or.inr hs))
    rcases h with hl | rfl | hn
    · exact Or.inr (mem_trimChars (hmem (Or.inl hl)))
    · exact Or.inl rfl
    · exact Or.inr (mem_trimChars (hmem (Or.inr hn)))

theorem IsAscii.spaced {cs : List Char} (h : IsAscii cs) : IsAscii (spaced cs) := by
  intro c hc
  cases mem_spaced hc with
  | inl hspace =>
    subst hspace
    decide
  | inr hmem => exact h c hmem

/-- The one spelling of an ASCII text. -/
theorem normalizeChars_of_ascii {cs : List Char} (h : IsAscii cs) :
    normalizeChars cs = (spaced cs).map Char.toUpper := by
  rw [normalizeChars_eq, upperChars_of_ascii h.spaced]

/-- An ASCII text has its one spelling after one step. -/
theorem normalize_normalize {s : String} (h : IsAscii s.toList) :
    normalize (normalize s) = normalize s := by
  have hupper : Char.toUpper ∘ Char.toUpper = Char.toUpper := funext toUpper_toUpper
  have hchars : normalizeChars (normalizeChars s.toList) = normalizeChars s.toList := by
    rw [normalizeChars_of_ascii h, normalizeChars_of_ascii h.spaced.map_toUpper,
      spaced_map_toUpper, spaced_spaced, List.map_map, hupper]
  rw [normalize, normalize, String.toList_ofList, hchars]

/-! ## No small letters -/

theorem image_of_lookup {sequences : List (Nat × List Nat)} {n : Nat} {image : List Nat}
    (h : sequences.lookup n = some image) : ∃ r ∈ sequences, r.2 = image := by
  obtain ⟨before, after, rfl, -⟩ := List.lookup_eq_some_iff.1 h
  exact ⟨(n, image), by simp, rfl⟩

theorem toNat_ofNat_cases (n : Nat) : (Char.ofNat n).toNat = n ∨ (Char.ofNat n).toNat = 0 := by
  by_cases h : n.isValidChar
  · have hval : Char.ofNat n = Char.ofNatAux n h := dif_pos h
    rw [hval]
    exact Or.inl rfl
  · have hval : Char.ofNat n = Char.ofNat 0 := dif_neg h
    rw [hval]
    exact Or.inr rfl

theorem not_small_of_ofNat {n : Nat} (h : n < 97 ∨ 122 < n) : ¬ IsSmall (Char.ofNat n) := by
  rintro ⟨hle, hle'⟩
  rcases toNat_ofNat_cases n with heq | heq <;> omega

/-- Tables without small ASCII letters map no other character to one. -/
theorem not_small_of_mem_mapCase {sequences : List (Nat × List Nat)} {runs : List CaseRun}
    (hsequences : ∀ r ∈ sequences, ∀ n ∈ r.2, n < 97 ∨ 122 < n)
    (hruns : ∀ r ∈ runs, r.image + (r.last - r.first) < 97 ∨ 122 < r.image) {c d : Char}
    (hc : ¬ IsSmall c) (h : d ∈ mapCase sequences runs c) : ¬ IsSmall d := by
  unfold mapCase at h
  split at h
  next image hlookup =>
    obtain ⟨r, hr, rfl⟩ := image_of_lookup hlookup
    obtain ⟨n, hn, rfl⟩ := List.mem_map.1 h
    exact not_small_of_ofNat (hsequences r hr n hn)
  next =>
    split at h
    next n hrun =>
      obtain ⟨r, hr, himage⟩ := List.exists_of_findSome?_eq_some hrun
      obtain rfl := List.mem_singleton.1 h
      rw [CaseRun.image?] at himage
      split at himage
      next hin =>
        obtain rfl := Option.some.inj himage
        have hsmall := hruns r hr
        exact not_small_of_ofNat (by omega)
      next => cases himage
    next => exact List.mem_singleton.1 h ▸ hc

theorem not_small_of_mem_upperChar {c d : Char} (h : d ∈ upperChar c) : ¬ IsSmall d := by
  unfold upperChar at h
  split at h
  next =>
    obtain rfl := List.mem_singleton.1 h
    exact toUpper_not_small c
  next hc =>
    have hsmall : ¬ IsSmall c := fun hs => hc (Nat.lt_of_le_of_lt hs.2 (by decide))
    exact not_small_of_mem_mapCase (by decide +kernel) (by decide +kernel) hsmall h

theorem not_small_of_mem_upper {s : String} {d : Char} (h : d ∈ (upper s).toList) :
    ¬ IsSmall d := by
  rw [upper, String.toList_ofList] at h
  obtain ⟨c, -, hd⟩ := List.mem_flatMap.1 h
  exact not_small_of_mem_upperChar hd

end Code

end StudyPlan
