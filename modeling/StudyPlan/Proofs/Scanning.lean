import StudyPlan.Proofs.Lookup
import StudyPlan.Proofs.Respelling

/-!
# Every code of a text

A code is *printed* as four capitals, one space and three digits.  The scan goes through a
text from left to right and after a find goes on behind it, so a code that began inside
another one would be passed over.  There is none (`Printed.apart`).  Suppose that a printed
code begins inside another, at one of its places 1 to 7.  From the places 1 to 4 its four
capitals reach over the place of the other's space, and at the places 5 to 7 its first
capital is one of the other's digits.

So whatever is skipped, the scan finds exactly the printed codes that begin behind what is
skipped (`mem_scan`), and those of a text are all its parts of that form (`inText_exact`).
A printed code is its own spelling (`Printed.normalizeChars`).
-/

namespace StudyPlan

namespace Code

open Text

variable {x y : List Char}

/-! ## Printed codes -/

/-- A code as it is printed: four capitals, one space and three digits. -/
def Printed (x : List Char) : Prop :=
  ∃ letters digits, x = letters ++ ' ' :: digits ∧ letters.length = 4 ∧ digits.length = 3 ∧
    (∀ c ∈ letters, isAsciiCapital c = true) ∧ ∀ c ∈ digits, isDecimalDigit c = true

theorem isAsciiLetter_of_isAsciiCapital {c : Char} (h : isAsciiCapital c = true) :
    isAsciiLetter c = true :=
  Bool.or_eq_true_iff.2 (Or.inl h)

theorem not_small_of_isAsciiCapital {c : Char} (h : isAsciiCapital c = true) : ¬ IsSmall c := by
  have hle : c ≤ 'Z' := of_decide_eq_true (Bool.and_eq_true_iff.1 h).2
  have hcode : c.toNat ≤ 90 := UInt32.le_iff_toNat_le.1 hle
  rintro ⟨hsmall, -⟩
  omega

theorem Printed.length_eq (h : Printed x) : x.length = 8 := by
  obtain ⟨letters, digits, rfl, hletters, hdigits, -, -⟩ := h
  rw [List.length_append, List.length_cons, hletters, hdigits]

theorem Printed.capital (h : Printed x) {i : Nat} (hi : i < 4) :
    ∃ c, x[i]? = some c ∧ isAsciiCapital c = true := by
  obtain ⟨letters, digits, rfl, hletters, -, hcapital, -⟩ := h
  have hlt : i < letters.length := hletters.symm ▸ hi
  rw [List.getElem?_append_left hlt]
  exact ⟨letters[i], List.getElem?_eq_getElem hlt, hcapital _ (List.getElem_mem hlt)⟩

theorem Printed.space (h : Printed x) : x[4]? = some ' ' := by
  obtain ⟨letters, digits, rfl, hletters, -, -, -⟩ := h
  rw [← hletters, List.getElem?_append_right (Nat.le_refl _), Nat.sub_self]
  rfl

theorem Printed.digit (h : Printed x) {i : Nat} (hi : 5 ≤ i) (hi' : i < 8) :
    ∃ c, x[i]? = some c ∧ isDecimalDigit c = true := by
  obtain ⟨letters, digits, rfl, hletters, hdigits, -, hdigit⟩ := h
  obtain ⟨k, rfl⟩ := Nat.exists_eq_add_of_le hi
  have hlt : k < digits.length := by omega
  have hplace : 5 + k - letters.length = k + 1 := by omega
  rw [List.getElem?_append_right (by omega), hplace, List.getElem?_cons_succ]
  exact ⟨digits[k], List.getElem?_eq_getElem hlt, hdigit _ (List.getElem_mem hlt)⟩

/-- A printed code is its own spelling. -/
theorem Printed.normalizeChars (h : Printed x) : normalizeChars x = x := by
  obtain ⟨letters, digits, rfl, hletters, hdigits, hcapital, hdigit⟩ := h
  have hloose : Loose letters [' '] digits [] :=
    { letters_ne := List.ne_nil_of_length_pos (by omega)
      letter := fun c hc => isAsciiLetter_of_isAsciiCapital (hcapital c hc)
      blank := fun c hc => List.mem_singleton.1 hc ▸ rfl
      digits_ne := List.ne_nil_of_length_pos (by omega)
      digit := hdigit
      suffix_letter := Or.inl rfl }
  have hupper : letters.map Char.toUpper = letters := by
    refine (List.map_congr_left fun c hc => ?_).trans (List.map_id _)
    exact toUpper_of_not_small (not_small_of_isAsciiCapital (hcapital c hc))
  have hcs : letters ++ ' ' :: digits = letters ++ ([' '] ++ (digits ++ [])) := by
    rw [List.append_nil, List.singleton_append]
  rw [hcs, (normalizeChars_of_loose hloose hloose.trimChars).1, hupper]
  rfl

/-! ## Two codes of a text -/

/-- A printed code does not begin inside another one. -/
theorem Printed.apart (hx : Printed x) (hy : Printed y) {rest before after : List Char}
    (h : x ++ rest = before ++ (y ++ after)) (hne : before ≠ []) :
    x.length ≤ before.length := by
  have hpos : 0 < before.length := List.length_pos_iff.2 hne
  -- A place behind the start of `y` is one of both codes.
  have hshared : ∀ i, before.length ≤ i → i < 8 → x[i]? = y[i - before.length]? := by
    intro i hle hlt
    have hchar : (x ++ rest)[i]? = (before ++ (y ++ after))[i]? := by rw [h]
    rwa [List.getElem?_append_left (by rw [hx.length_eq]; exact hlt),
      List.getElem?_append_right hle,
      List.getElem?_append_left (by rw [hy.length_eq]; omega)] at hchar
  by_contra hinside
  rw [hx.length_eq] at hinside
  by_cases hfour : before.length ≤ 4
  · obtain ⟨c, hc, hcapital⟩ := hy.capital (i := 4 - before.length) (by omega)
    rw [← hshared 4 hfour (by decide), hx.space] at hc
    obtain rfl := Option.some.inj hc
    exact absurd hcapital (by decide)
  · obtain ⟨c, hc, hcapital⟩ := hy.capital (i := 0) (by decide)
    obtain ⟨d, hd, hdigit⟩ := hx.digit (i := before.length) (by omega) (by omega)
    rw [hshared before.length (Nat.le_refl _) (by omega), Nat.sub_self, hc] at hd
    obtain rfl := Option.some.inj hd
    have hnot := not_isDecimalDigit_of_isAsciiLetter (isAsciiLetter_of_isAsciiCapital hcapital)
    exact Bool.noConfusion (hnot.symm.trans hdigit)

/-- Behind the first character of a printed code, the next one begins behind the seven others. -/
theorem Printed.behind (hx : Printed x) (hy : Printed y) {c : Char}
    {cs rest before after : List Char} (h : c :: cs = x ++ rest)
    (heq : cs = before ++ (y ++ after)) : 7 ≤ before.length := by
  have hlater : x ++ rest = (c :: before) ++ (y ++ after) :=
    h.symm.trans (congrArg (c :: ·) heq)
  have hlen := hx.apart hy hlater (List.cons_ne_nil _ _)
  rw [hx.length_eq, List.length_cons] at hlen
  omega

/-! ## Scanning -/

theorem front?_eq_some_iff {cs rest : List Char} :
    front? cs = some (x, rest) ↔ Printed x ∧ cs = x ++ rest := by
  constructor
  · intro h
    unfold front? at h
    split at h
    next a b c d x' y' z' tail =>
      split at h
      next hkinds =>
        obtain ⟨rfl, rfl⟩ := Prod.mk.inj (Option.some.inj h)
        obtain ⟨hletters, hdigits⟩ := Bool.and_eq_true_iff.1 hkinds
        exact ⟨⟨[a, b, c, d], [x', y', z'], rfl, rfl, rfl, List.all_eq_true.1 hletters,
          List.all_eq_true.1 hdigits⟩, rfl⟩
      next => cases h
    next => cases h
  · rintro ⟨⟨letters, digits, rfl, hletters, hdigits, hcapital, hdigit⟩, rfl⟩
    match letters, hletters, digits, hdigits with
    | [a, b, c, d], _, [x', y', z'], _ =>
      have hkinds : ([a, b, c, d].all isAsciiCapital && [x', y', z'].all isDecimalDigit) = true :=
        Bool.and_eq_true_iff.2 ⟨List.all_eq_true.2 hcapital, List.all_eq_true.2 hdigit⟩
      exact if_pos hkinds

/-- A text begins with some characters or has them behind its first one. -/
theorem exists_place_cons_iff {c : Char} {cs : List Char} {P : Nat → Prop} :
    (∃ before after, c :: cs = before ++ (x ++ after) ∧ P before.length) ↔
      (∃ after, c :: cs = x ++ after ∧ P 0) ∨
        ∃ before after, cs = before ++ (x ++ after) ∧ P (before.length + 1) := by
  constructor
  · rintro ⟨before, after, heq, hplace⟩
    cases before with
    | nil => exact Or.inl ⟨after, heq, hplace⟩
    | cons b before =>
      obtain ⟨-, htail⟩ := List.cons.inj heq
      exact Or.inr ⟨before, after, htail, hplace⟩
  · rintro (⟨after, heq, hplace⟩ | ⟨before, after, heq, hplace⟩)
    · exact ⟨[], after, heq, hplace⟩
    · exact ⟨c :: before, after, congrArg (c :: ·) heq, hplace⟩

/-- The scan finds the printed codes that begin behind what is skipped. -/
theorem mem_scan {cs : List Char} {skip : Nat} :
    x ∈ scan skip cs ↔
      Printed x ∧ ∃ before after, cs = before ++ (x ++ after) ∧ skip ≤ before.length := by
  induction cs generalizing skip with
  | nil =>
    refine iff_of_false List.not_mem_nil ?_
    rintro ⟨hx, before, after, heq, -⟩
    obtain ⟨-, hx', -⟩ := by simpa using heq
    exact absurd hx.length_eq (by rw [hx']; decide)
  | cons c cs ih =>
    rw [exists_place_cons_iff (P := (skip ≤ ·))]
    cases skip with
    | succ k =>
      rw [scan, ih]
      simp
    | zero =>
      unfold scan
      cases hfront : front? (c :: cs) with
      | none =>
        simp only [ih, Nat.zero_le, and_true]
        refine and_congr_right fun hx => (or_iff_right ?_).symm
        rintro ⟨after, heq⟩
        rw [front?_eq_some_iff.2 ⟨hx, heq⟩] at hfront
        cases hfront
      | some found =>
        obtain ⟨code, rest⟩ := found
        obtain ⟨hcode, hcs⟩ := front?_eq_some_iff.1 hfront
        simp only [List.mem_cons, ih, Nat.zero_le, and_true]
        constructor
        · rintro (rfl | ⟨hx, before, after, heq, -⟩)
          · exact ⟨hcode, Or.inl ⟨rest, hcs⟩⟩
          · exact ⟨hx, Or.inr ⟨before, after, heq⟩⟩
        · rintro ⟨hx, ⟨after, heq⟩ | ⟨before, after, heq⟩⟩
          · have hsame : x ++ after = code ++ rest := heq.symm.trans hcs
            exact Or.inl (List.append_inj_left hsame (hx.length_eq.trans hcode.length_eq.symm))
          · have hskip : code.length - 1 ≤ before.length := by
              rw [hcode.length_eq]
              exact hcode.behind hx hcs heq
            exact Or.inr ⟨hx, before, after, heq, hskip⟩

/-- The codes in a text are all its parts of eight characters that are printed codes.  Each
is its own spelling, so that it is looked up in a catalogue as it stands. -/
theorem inText_exact (s : String) :
    (∀ x, x ∈ inText s ↔ Printed x.toList ∧ x.toList <:+: s.toList) ∧
      ∀ x ∈ inText s, normalize x = x ∧
        ∀ catalog : Catalog, catalog.get? x = Catalog.find? catalog.courses x := by
  have hmem : ∀ x, x ∈ inText s ↔ Printed x.toList ∧ x.toList <:+: s.toList := by
    intro x
    have hscan : x ∈ inText s ↔ x.toList ∈ scan 0 s.toList := by
      rw [inText, CodeSet.mem_ofList, List.mem_map]
      constructor
      · rintro ⟨code, hcode, rfl⟩
        rwa [String.toList_ofList]
      · exact fun h => ⟨_, h, String.ofList_toList⟩
    rw [hscan, mem_scan]
    simp only [Nat.zero_le, and_true, List.IsInfix, List.append_assoc, eq_comm]
  refine ⟨hmem, fun x hx => ?_⟩
  have hself : normalize x = x := by
    rw [normalize, ((hmem x).1 hx).1.normalizeChars, String.ofList_toList]
  exact ⟨hself, fun catalog => by rw [Catalog.get?_eq_find?, hself]⟩

/-- Codes side by side, after a longer run of letters and before a longer run of digits. -/
theorem inText_exact_sideBySide :
    inText "XCOSC 111MATH 1000" = ["COSC 111", "MATH 100"] ∧
    (Printed "MATH 100".toList ∧ "MATH 100".toList <:+: "XCOSC 111MATH 1000".toList) ∧
    normalize "MATH 100" = "MATH 100" ∧
    ∀ catalog : Catalog, catalog.get? "MATH 100" = Catalog.find? catalog.courses "MATH 100" := by
  have hfound : inText "XCOSC 111MATH 1000" = ["COSC 111", "MATH 100"] := by decide +kernel
  have hmem : "MATH 100" ∈ inText "XCOSC 111MATH 1000" := by
    rw [hfound]
    decide
  obtain ⟨hexact, hspelt⟩ := inText_exact "XCOSC 111MATH 1000"
  exact ⟨hfound, (hexact "MATH 100").1 hmem, hspelt "MATH 100" hmem⟩

end Code

end StudyPlan
