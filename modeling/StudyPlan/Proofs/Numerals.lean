import StudyPlan.Json.Document
import StudyPlan.Json.Printer
import StudyPlan.Proofs.Spelling

/-!
# Numbers in a data text

A number that is written is read back as a numeral, and the numeral shows the same
characters (`Numeral.chars`).  Nothing says where a number is over, so this holds only if
what comes next does not continue it (`Ends`).  A comma, a bracket and a blank do not.

A numeral can be read if its parts are lists of digits, none of them empty that has to be
there, and no zero stands in front of other digits (`Numeral.Proper`); then it is read back
from its characters (`readNumeral_chars`).  So it remains to see that whatever is written is
such a numeral.

* A whole number has neither point nor exponent (`numeral`).  Such a numeral is kept whole if
  64 bits hold the number (`value?_cases`), and what is kept whole is written as a numeral that
  is kept whole again (`value?_numeral`).
* The text of a finite binary64 number has one or the other, however its digits are laid out
  (`exists_numeral`).  What its digits are makes no difference.
-/

namespace StudyPlan

namespace Json

open Text (isAsciiDigit)

namespace Document

/-! ## Digits -/

/-- Nothing in front of the characters continues a number. -/
def Ends (cs : List Char) : Prop :=
  ∀ c ∈ cs.head?, isAsciiDigit c = false ∧ c ≠ '.' ∧ c ≠ 'e' ∧ c ≠ 'E'

theorem isAsciiDigit_of_mem_toDigits {n : Nat} {c : Char} (h : c ∈ Nat.toDigits 10 n) :
    isAsciiDigit c = true := by
  have hdigit := Nat.isDigit_of_mem_toDigits (by decide) (by decide) h
  simpa [isAsciiDigit, Char.isDigit, Char.le_def] using hdigit

/-- A number other than zero does not start with one. -/
theorem head?_toDigits {n : Nat} (hn : 0 < n) : ∀ c ∈ (Nat.toDigits 10 n).head?, c ≠ '0' := by
  induction n using Nat.strongRecOn with
  | ind n ih =>
    intro c hc
    rw [Nat.toDigits_eq_if (by decide)] at hc
    split at hc
    · obtain rfl := Option.some.inj hc
      exact fun hzero => absurd (Nat.digitChar_eq_zero.1 hzero) (Nat.ne_of_gt hn)
    next hlarge =>
      rw [List.head?_append_of_ne_nil _ Nat.toDigits_ne_nil] at hc
      exact ih (n / 10) (by omega) (by omega) c hc

theorem digitsValue_toDigits (n : Nat) : Text.digitsValue 0 (Nat.toDigits 10 n) = n :=
  Nat.ofDigitChars_eq_foldl.symm.trans Nat.ofDigitChars_ten_toDigits

end Document

/-! ## Numerals -/

namespace Numeral

/-- The fraction as it is written. -/
def fractionChars (ds : List Char) : List Char := if ds = [] then [] else '.' :: ds

/-- The exponent as it is written. -/
def exponentChars : Option (Bool × List Char) → List Char
  | none => []
  | some (negative, ds) => 'e' :: (if negative then '-' else '+') :: ds

/-- The numeral without its sign. -/
def unsignedChars (n : Numeral) : List Char :=
  n.whole ++ (fractionChars n.fraction ++ exponentChars n.exponent)

/-- The numeral as it is written. -/
def chars (n : Numeral) : List Char := Binary64.signChars n.negative ++ n.unsignedChars

/-- Digits that may stand before a point: at least one, and no zero in front of others. -/
structure ProperWhole (ds : List Char) : Prop where
  digit : ∀ c ∈ ds, isAsciiDigit c = true
  ne_nil : ds ≠ []
  no_zero : ds = ['0'] ∨ ∀ c ∈ ds.head?, c ≠ '0'

/-- A numeral that can be read. -/
structure Proper (n : Numeral) : Prop where
  whole : ProperWhole n.whole
  fraction : ∀ c ∈ n.fraction, isAsciiDigit c = true
  exponent : ∀ e ∈ n.exponent, e.2 ≠ [] ∧ ∀ c ∈ e.2, isAsciiDigit c = true

end Numeral

namespace Document

open Numeral

variable {rest : List Char}

theorem readWhole_append {ds : List Char} (h : ProperWhole ds)
    (hrest : ∀ c ∈ rest.head?, isAsciiDigit c = false) :
    readWhole (ds ++ rest) = some (ds, rest) := by
  rcases h.no_zero with rfl | hzero
  · rfl
  · have hhead : ∀ cs, ds ++ rest = '0' :: cs → False := by
      intro cs hcs
      have hfirst := congrArg List.head? hcs
      rw [List.head?_append_of_ne_nil _ h.ne_nil] at hfirst
      exact hzero '0' hfirst rfl
    rw [readWhole.eq_2 _ hhead]
    simp only [Code.takeWhile_append_of_head? h.digit hrest,
      Code.dropWhile_append_of_head? h.digit hrest, List.isEmpty_iff, h.ne_nil, if_false]

theorem readFraction_append {ds : List Char} (h : ∀ c ∈ ds, isAsciiDigit c = true)
    (hrest : ∀ c ∈ rest.head?, isAsciiDigit c = false ∧ c ≠ '.') :
    readFraction (fractionChars ds ++ rest) = some (ds, rest) := by
  unfold fractionChars
  split
  next hnil =>
    rw [List.nil_append, hnil]
    cases rest with
    | nil => rfl
    | cons c cs => exact readFraction.eq_2 (c :: cs) fun _ h => (hrest c rfl).2 (List.cons.inj h).1
  next hne =>
    have hstop : ∀ c ∈ rest.head?, isAsciiDigit c = false := fun c hc => (hrest c hc).1
    rw [List.cons_append, readFraction]
    simp only [Code.takeWhile_append_of_head? h hstop, Code.dropWhile_append_of_head? h hstop,
      List.isEmpty_iff, hne, if_false]

theorem readExponent_append {e : Option (Bool × List Char)}
    (h : ∀ e' ∈ e, e'.2 ≠ [] ∧ ∀ c ∈ e'.2, isAsciiDigit c = true) (hrest : Ends rest) :
    readExponent (exponentChars e ++ rest) = some (e, rest) := by
  cases e with
  | none =>
    cases rest with
    | nil => rfl
    | cons c cs => exact if_neg (not_or.2 (hrest c rfl).2.2)
  | some e =>
    obtain ⟨negative, ds⟩ := e
    obtain ⟨hne, hdigit⟩ := h _ rfl
    have hstop : ∀ c ∈ rest.head?, isAsciiDigit c = false := fun c hc => (hrest c hc).1
    have hsign : Binary64.takeSign ((if negative then '-' else '+') :: (ds ++ rest))
        = (negative, ds ++ rest) := by
      cases negative with
      | true => rfl
      | false => rfl
    simp only [exponentChars, List.cons_append, readExponent, true_or, if_true, hsign,
      Code.takeWhile_append_of_head? hdigit hstop, Code.dropWhile_append_of_head? hdigit hstop,
      List.isEmpty_iff, hne, if_false]

/-- An exponent is not taken for a part of the fraction. -/
theorem head?_exponentChars_append (e : Option (Bool × List Char)) (hrest : Ends rest) :
    ∀ c ∈ (exponentChars e ++ rest).head?, isAsciiDigit c = false ∧ c ≠ '.' := by
  intro c hc
  cases e with
  | none => exact ⟨(hrest c hc).1, (hrest c hc).2.1⟩
  | some e =>
    obtain rfl := Option.some.inj hc
    decide

theorem head?_fractionChars_append (ds : List Char)
    (hrest : ∀ c ∈ rest.head?, isAsciiDigit c = false ∧ c ≠ '.') :
    ∀ c ∈ (fractionChars ds ++ rest).head?, isAsciiDigit c = false := by
  intro c hc
  unfold fractionChars at hc
  split at hc
  · exact (hrest c hc).1
  · obtain rfl := Option.some.inj hc
    rfl

/-- A numeral is read back from its characters. -/
theorem readNumeral_chars {n : Numeral} (h : n.Proper) (hrest : Ends rest) :
    readNumeral n.negative (n.unsignedChars ++ rest) = some (n, rest) := by
  have hexponent := head?_exponentChars_append n.exponent hrest
  have hfraction := head?_fractionChars_append n.fraction hexponent
  simp only [readNumeral, unsignedChars, List.append_assoc, readWhole_append h.whole hfraction,
    readFraction_append h.fraction hexponent, readExponent_append h.exponent hrest,
    Option.bind_eq_bind, Option.bind_some, Option.pure_def]

end Document

/-! ## Whole numbers -/

open Document

/-- A whole number as it is read. -/
def numeral (i : Int) : Numeral := ⟨decide (i < 0), Nat.toDigits 10 i.natAbs, [], none⟩

theorem chars_numeral (i : Int) : (numeral i).chars = intChars i := by
  by_cases hi : i < 0 <;>
    simp [numeral, Numeral.chars, Numeral.unsignedChars, Numeral.fractionChars,
      Numeral.exponentChars, Binary64.signChars, intChars, hi]

theorem properWhole_toDigits (n : Nat) : Numeral.ProperWhole (Nat.toDigits 10 n) where
  digit _ := isAsciiDigit_of_mem_toDigits
  ne_nil := Nat.toDigits_ne_nil
  no_zero := by
    cases Nat.eq_zero_or_pos n with
    | inl hzero => exact .inl (by rw [hzero, Nat.toDigits_zero])
    | inr hpos => exact .inr (head?_toDigits hpos)

theorem proper_numeral (i : Int) : (numeral i).Proper where
  whole := properWhole_toDigits _
  fraction := fun _ hc => nomatch hc
  exponent := fun _ he => nomatch he

theorem value?_numeral_natCast {m : Nat} (hm : m < word) :
    (numeral m).value? = some (.int m) := by
  have hnonneg : ¬ ((m : Int) < 0) := by omega
  simp only [Numeral.value?, numeral, Int.natAbs_natCast, decide_eq_false hnonneg,
    digitsValue_toDigits, decide_eq_true hm]
  rfl

theorem value?_numeral_neg {m : Nat} (hpos : m ≠ 0) (hm : m ≤ 0x8000000000000000) :
    (numeral (-m)).value? = some (.int (-m)) := by
  have hneg : -(m : Int) < 0 := by omega
  simp only [Numeral.value?, numeral, Int.natAbs_neg, Int.natAbs_natCast, decide_eq_true hneg,
    digitsValue_toDigits, decide_eq_true hpos, decide_eq_true hm]
  rfl

/-- A numeral is a whole number that 64 bits hold, signed or not, or a binary64 number. -/
theorem value?_cases {n : Numeral} {v : Json} (h : n.value? = some v) :
    (∃ m : Nat, m < word ∧ v = .int m) ∨
      (∃ m : Nat, m ≠ 0 ∧ m ≤ 0x8000000000000000 ∧ v = .int (-m)) ∨
      ∃ x, n.float? = some x ∧ v = .float x := by
  unfold Numeral.value? at h
  dsimp only at h
  split at h
  next hnonneg =>
    exact .inl ⟨_, of_decide_eq_true (Bool.and_eq_true_iff.1 hnonneg).2, (Option.some.inj h).symm⟩
  split at h
  next hneg =>
    simp only [Bool.and_eq_true, decide_eq_true_eq] at hneg
    exact .inr (.inl ⟨_, hneg.1.2, hneg.2, (Option.some.inj h).symm⟩)
  next =>
    obtain ⟨x, hx, rfl⟩ := Option.map_eq_some_iff.1 h
    exact .inr (.inr ⟨x, hx, rfl⟩)

/-- What is kept whole is read back as it is. -/
theorem value?_numeral {n : Numeral} {i : Int} (h : n.value? = some (.int i)) :
    (numeral i).value? = some (.int i) := by
  obtain ⟨m, hm, hi⟩ | ⟨m, hpos, hm, hi⟩ | ⟨x, -, hi⟩ := value?_cases h
  · obtain rfl := Json.int.inj hi
    exact value?_numeral_natCast hm
  · obtain rfl := Json.int.inj hi
    exact value?_numeral_neg hpos hm
  · cases hi

/-! ## Binary64 numbers -/

open Binary64 (Decimal zeros digitChars signChars shortest dataText)

/-- Digits with a zero after the point. -/
def pointZero (s : Bool) (ds : List Char) : Numeral := ⟨s, ds, ['0'], none⟩

@[simp] theorem pointZero_whole (s : Bool) (ds : List Char) : (pointZero s ds).whole = ds := rfl

@[simp] theorem pointZero_fraction (s : Bool) (ds : List Char) :
    (pointZero s ds).fraction = ['0'] := rfl

@[simp] theorem scale_pointZero (s : Bool) (ds : List Char) : (pointZero s ds).scale = 0 := rfl

theorem chars_pointZero (s : Bool) (ds : List Char) :
    (pointZero s ds).chars = signChars s ++ (ds ++ ['.', '0']) := rfl

theorem proper_pointZero {ds : List Char} (h : Numeral.ProperWhole ds) (s : Bool) :
    (pointZero s ds).Proper where
  whole := h
  fraction := by
    intro c hc
    obtain rfl := List.mem_singleton.1 hc
    rfl
  exponent := fun _ he => nomatch he

theorem isAsciiDigit_of_mem_zeros {n : Nat} {c : Char} (h : c ∈ zeros n) :
    isAsciiDigit c = true := by
  rw [List.eq_of_mem_replicate h]
  rfl

variable {d : Decimal}

/-- Zeros may follow digits that are not zero themselves. -/
theorem properWhole_zeros (hd : d.digits ≠ 0) (n : Nat) :
    Numeral.ProperWhole (digitChars d.digits ++ zeros n) where
  digit _ hc := (List.mem_append.1 hc).elim isAsciiDigit_of_mem_toDigits isAsciiDigit_of_mem_zeros
  ne_nil := List.append_ne_nil_of_left_ne_nil Nat.toDigits_ne_nil _
  no_zero := by
    refine .inr ?_
    rw [digitChars, List.head?_append_of_ne_nil _ Nat.toDigits_ne_nil]
    exact head?_toDigits (Nat.pos_of_ne_zero hd)

theorem properWhole_take (hd : d.digits ≠ 0) {k : Nat} (hk : 0 < k) :
    Numeral.ProperWhole ((digitChars d.digits).take k) where
  digit _ hc := isAsciiDigit_of_mem_toDigits (List.mem_of_mem_take hc)
  ne_nil h := (List.take_eq_nil_iff.1 h).elim (Nat.ne_of_gt hk) Nat.toDigits_ne_nil
  no_zero := by
    refine .inr fun c hc => ?_
    rw [List.head?_take, if_neg (Nat.ne_of_gt hk)] at hc
    exact head?_toDigits (Nat.pos_of_ne_zero hd) c hc

theorem isAsciiDigit_of_mem_drop {k : Nat} {c : Char} (h : c ∈ (digitChars d.digits).drop k) :
    isAsciiDigit c = true :=
  isAsciiDigit_of_mem_toDigits (List.mem_of_mem_drop h)

/-- The layout with a point among the digits, or in front of them. -/
theorem exists_plain (hd : d.digits ≠ 0) (hneg : d.exponent < 0) (s : Bool) :
    ∃ n : Numeral, n.Proper ∧ n.negative = s ∧ d.plain = n.unsignedChars ∧ n.fraction ≠ [] := by
  have hlayout : ¬ 0 ≤ d.exponent := Int.not_le.2 hneg
  by_cases hinside : (-d.exponent).toNat < (digitChars d.digits).length
  · let before := (digitChars d.digits).length - (-d.exponent).toNat
    have hafter : (digitChars d.digits).drop before ≠ [] := by
      rw [Ne, List.drop_eq_nil_iff]
      omega
    refine ⟨⟨s, (digitChars d.digits).take before, (digitChars d.digits).drop before, none⟩,
      ⟨properWhole_take hd (Nat.sub_pos_of_lt hinside), fun _ => isAsciiDigit_of_mem_drop,
        fun _ he => nomatch he⟩, rfl, ?_, hafter⟩
    simp [Decimal.plain, hlayout, hinside, Numeral.unsignedChars, Numeral.fractionChars,
      Numeral.exponentChars, hafter, before]
  · let places := (-d.exponent).toNat - (digitChars d.digits).length
    have hafter : zeros places ++ digitChars d.digits ≠ [] :=
      List.append_ne_nil_of_right_ne_nil _ Nat.toDigits_ne_nil
    refine ⟨⟨s, ['0'], zeros places ++ digitChars d.digits, none⟩,
      ⟨properWhole_toDigits 0, fun c hc => ?_, fun _ he => nomatch he⟩, rfl, ?_, hafter⟩
    · exact (List.mem_append.1 hc).elim isAsciiDigit_of_mem_zeros isAsciiDigit_of_mem_toDigits
    · simp only [Decimal.plain, if_neg hlayout, if_neg hinside, Numeral.unsignedChars,
        Numeral.fractionChars, if_neg hafter, Numeral.exponentChars, List.append_nil,
        List.cons_append, List.nil_append, places]

/-- The layout with an exponent. -/
theorem exists_scientific (hd : d.digits ≠ 0) (s : Bool) :
    ∃ n : Numeral, n.Proper ∧ n.negative = s ∧ d.scientific = n.unsignedChars ∧
      n.exponent ≠ none := by
  let e : Int := d.exponent + (digitChars d.digits).length - 1
  refine ⟨⟨s, (digitChars d.digits).take 1, (digitChars d.digits).drop 1,
    some (decide (e < 0), digitChars e.natAbs)⟩, ⟨properWhole_take hd (by decide),
      fun _ => isAsciiDigit_of_mem_drop, fun _ he => ?_⟩, rfl, ?_, Option.some_ne_none _⟩
  · obtain rfl := Option.some.inj he
    exact ⟨Nat.toDigits_ne_nil, fun _ => isAsciiDigit_of_mem_toDigits⟩
  · have hsign : (if 0 ≤ e then '+' else '-') = if decide (e < 0) then '-' else '+' := by
      by_cases he : e < 0
      · rw [if_neg (Int.not_le.2 he), decide_eq_true he, if_pos rfl]
      · rw [if_pos (Int.not_lt.1 he), decide_eq_false he, if_neg Bool.false_ne_true]
    simp only [Decimal.scientific, Numeral.unsignedChars, Numeral.fractionChars,
      Numeral.exponentChars, List.drop_eq_nil_iff, List.append_assoc]
    rw [hsign]

/-- The text of a finite number is a numeral with a point or an exponent. -/
theorem exists_numeral (s : Bool) (u : Nat) :
    ∃ n : Numeral, n.Proper ∧ n.negative = s ∧
      (Binary64.finite s u).dataText.toList = n.chars ∧ (n.fraction ≠ [] ∨ n.exponent ≠ none) := by
  generalize hd : shortest .even u = d
  simp only [dataText, hd, String.toList_ofList]
  by_cases hzero : d.digits = 0
  · rw [if_pos hzero]
    exact ⟨pointZero s ['0'], proper_pointZero (properWhole_toDigits 0) s, rfl, rfl,
      .inl (List.cons_ne_nil _ _)⟩
  rw [if_neg hzero]
  split
  · split
    next hnonneg =>
      refine ⟨pointZero s _, proper_pointZero (properWhole_zeros hzero d.exponent.toNat) s, rfl, ?_,
        .inl (List.cons_ne_nil _ _)⟩
      rw [chars_pointZero, Decimal.plain, if_pos hnonneg, if_neg hzero]
    next hneg =>
      obtain ⟨n, hn, rfl, hbody, hfraction⟩ := exists_plain hzero (Int.not_le.1 hneg) s
      exact ⟨n, hn, rfl, by rw [hbody, Numeral.chars], .inl hfraction⟩
  · obtain ⟨n, hn, rfl, hbody, hexponent⟩ := exists_scientific hzero s
    exact ⟨n, hn, rfl, by rw [hbody, Numeral.chars], .inr hexponent⟩

end Json

end StudyPlan
