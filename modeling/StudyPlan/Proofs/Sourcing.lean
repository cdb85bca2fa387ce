import StudyPlan.Proofs.Records
import StudyPlan.Proofs.Rereading

/-!
# Where the numbers of a value come from

Every binary64 number of a data value is given by a numeral of the document that the value was
read from (`sourced_floats`).  So a condition on the numerals of a text, such as to be whole
up to a bound (`Numeral.IsWhole`), is one on the numbers of all that is read from it.

A part of a document nests less deep than the document, and has no other numerals (`Inside`).
This holds for a part of a record too, whether it is found by its name or by its place
(`inside_of_hasPart`).
-/

namespace StudyPlan

namespace Json

open Binary64

namespace Document

/-! ## Numerals and depth -/

mutual

/-- The numerals of the document. -/
def numerals : Document → List Numeral
  | .number n => [n]
  | .array items => itemNumerals items
  | .object fields => fieldNumerals fields
  | _ => []

/-- The numerals of the items. -/
def itemNumerals : List Document → List Numeral
  | [] => []
  | d :: ds => numerals d ++ itemNumerals ds

/-- The numerals of the fields. -/
def fieldNumerals : List (Option String × Document) → List Numeral
  | [] => []
  | (_, d) :: ds => numerals d ++ fieldNumerals ds

end

mutual

/-- How deep lists and objects nest in the document. -/
def depth : Document → Nat
  | .array items => itemsDepth items + 1
  | .object fields => fieldsDepth fields + 1
  | _ => 0

/-- How deep lists and objects nest in the items. -/
def itemsDepth : List Document → Nat
  | [] => 0
  | d :: ds => max (depth d) (itemsDepth ds)

/-- How deep lists and objects nest in the fields. -/
def fieldsDepth : List (Option String × Document) → Nat
  | [] => 0
  | (_, d) :: ds => max (depth d) (fieldsDepth ds)

end

variable {d part : Document} {items : List Document} {fields : List (Option String × Document)}

/-- A document nests less deep than what it is a part of, and has no other numerals. -/
structure Inside (part d : Document) : Prop where
  depth : part.depth < d.depth
  numerals : part.numerals ⊆ d.numerals

theorem Inside.trans {e : Document} (h : part.Inside d) (h' : d.Inside e) : part.Inside e :=
  ⟨Nat.lt_trans h.depth h'.depth, List.Subset.trans h.numerals h'.numerals⟩

theorem fieldsDepth_eq : fieldsDepth fields = itemsDepth (fields.map (·.2)) := by
  induction fields with
  | nil => rfl
  | cons f fields ih => rw [fieldsDepth, ih, List.map_cons, itemsDepth]

theorem fieldNumerals_eq : fieldNumerals fields = itemNumerals (fields.map (·.2)) := by
  induction fields with
  | nil => rfl
  | cons f fields ih => rw [fieldNumerals, ih, List.map_cons, itemNumerals]

theorem depth_le_of_mem (h : part ∈ items) : part.depth ≤ itemsDepth items := by
  induction items with
  | nil => cases h
  | cons d items ih =>
    cases List.mem_cons.1 h with
    | inl hfirst => exact hfirst ▸ Nat.le_max_left ..
    | inr hlater => exact Nat.le_trans (ih hlater) (Nat.le_max_right ..)

theorem numerals_subset_of_mem (h : part ∈ items) : part.numerals ⊆ itemNumerals items := by
  induction items with
  | nil => cases h
  | cons d items ih =>
    cases List.mem_cons.1 h with
    | inl hfirst => exact hfirst ▸ List.subset_append_left ..
    | inr hlater => exact List.Subset.trans (ih hlater) (List.subset_append_right ..)

theorem inside_array (h : part ∈ items) : part.Inside (.array items) :=
  ⟨Nat.lt_succ_of_le (depth_le_of_mem h), numerals_subset_of_mem h⟩

theorem inside_object {f : Option String × Document} (h : f ∈ fields) :
    f.2.Inside (.object fields) := by
  have hpart : f.2 ∈ fields.map (·.2) := List.mem_map_of_mem h
  constructor
  · rw [depth, fieldsDepth_eq]
    exact Nat.lt_succ_of_le (depth_le_of_mem hpart)
  · rw [numerals, fieldNumerals_eq]
    exact numerals_subset_of_mem hpart

theorem inside_of_hasPart {names : List String} {key : String} (h : d.HasPart names key part) :
    part.Inside d := by
  cases d with
  | object fields => exact inside_object (mem_under.1 h)
  | array items => exact inside_array (List.of_mem_zip h).2
  | _ => cases h

end Document

open Document

variable {fields : List (String × Json)}

/-! ## Numbers -/

/-- The number that a numeral stands for, kept whole or not. -/
def Numeral.Gives (n : Numeral) (x : Binary64) : Prop :=
  n.value? = some (.float x) ∨ ∃ i, n.value? = some (.int i) ∧ x = .ofInt i

/-- Each of the numbers is given by one of the numerals. -/
def Sourced (xs : List Binary64) (ns : List Numeral) : Prop := ∀ x ∈ xs, ∃ n ∈ ns, n.Gives x

section Sourced

variable {xs ys : List Binary64} {ns ms : List Numeral}

theorem Sourced.nil : Sourced [] ns := fun _ hx => nomatch hx

theorem Sourced.mono (h : Sourced xs ns) (hsub : ns ⊆ ms) : Sourced xs ms := fun x hx =>
  let ⟨n, hn, hgives⟩ := h x hx
  ⟨n, hsub hn, hgives⟩

theorem Sourced.append (h : Sourced xs ns) (h' : Sourced ys ms) : Sourced (xs ++ ys) (ns ++ ms) :=
  fun x hx => (List.mem_append.1 hx).elim (h.mono (List.subset_append_left ..) x)
    (h'.mono (List.subset_append_right ..) x)

end Sourced

/-- The numeral is read as a whole number of a magnitude up to a bound. -/
def Numeral.IsWhole (bound : Nat) (n : Numeral) : Prop :=
  (∃ i : Int, i.natAbs ≤ bound ∧ n.value? = some (.int i)) ∨
    ∃ s m, m ≤ bound ∧ n.value? = some (.float (.finite s (m * one)))

theorem Numeral.IsWhole.eq_of_gives {n : Numeral} {bound : Nat} {x : Binary64}
    (h : n.IsWhole bound) (hbound : bound ≤ lastWhole) (hx : n.Gives x) :
    ∃ s m, m ≤ bound ∧ x = .finite s (m * one) := by
  obtain ⟨i, hi, hvalue⟩ | ⟨s, m, hm, hvalue⟩ := h
  · obtain hfloat | ⟨j, hj, rfl⟩ := hx
    · cases hvalue.symm.trans hfloat
    · obtain rfl := Json.int.inj (Option.some.inj (hvalue.symm.trans hj))
      exact ⟨_, _, hi, ofInt_eq (Nat.le_trans hi hbound)⟩
  · obtain hfloat | ⟨j, hj, rfl⟩ := hx
    · exact ⟨s, m, hm, (Json.float.inj (Option.some.inj (hvalue.symm.trans hfloat))).symm⟩
    · cases hvalue.symm.trans hj

/-- Digits without point and exponent are whole; minus zero is kept as a binary64 number. -/
theorem isWhole_of_plain {n : Numeral} {bound : Nat} (hfraction : n.fraction = [])
    (hexponent : n.exponent = none) (hdigits : Text.digitsValue 0 n.whole ≤ bound)
    (hbound : bound ≤ lastWhole) : n.IsWhole bound := by
  have hword : Text.digitsValue 0 n.whole < word :=
    Nat.lt_of_le_of_lt (Nat.le_trans hdigits hbound) (by decide)
  have hhalf : Text.digitsValue 0 n.whole ≤ 0x8000000000000000 :=
    Nat.le_trans (Nat.le_trans hdigits hbound) (by decide)
  obtain ⟨negative, whole, fraction, exponent⟩ := n
  obtain rfl : fraction = [] := hfraction
  obtain rfl : exponent = none := hexponent
  cases negative with
  | false =>
    exact .inl ⟨(Text.digitsValue 0 whole : Nat), hdigits, if_pos (by simpa using hword)⟩
  | true =>
    by_cases hzero : Text.digitsValue 0 whole = 0
    · refine .inr ⟨true, 0, Nat.zero_le _, ?_⟩
      have hgathered := gatherWhole_eq hword
      simp [Numeral.value?, Numeral.float?, hgathered, hzero, gatherFraction, scaled, neg]
    · refine .inl ⟨-(Text.digitsValue 0 whole : Nat), ?_, ?_⟩
      · rw [Int.natAbs_neg, Int.natAbs_natCast]
        exact hdigits
      · simp [Numeral.value?, hzero, hhalf]

theorem mem_fieldFloats {x : Binary64} :
    x ∈ fieldFloats fields ↔ ∃ g ∈ fields, x ∈ g.2.floats := by
  induction fields with
  | nil => simp [fieldFloats]
  | cons g fields ih => simp [fieldFloats, ih]

mutual

theorem sourced_floats : ∀ (d : Document) {depth : Nat} {v : Json}, d.value? depth = some v →
    Sourced v.floats d.numerals
  | .null, _, _, h => by
    obtain rfl := Option.some.inj h
    exact .nil
  | .bool b, _, _, h => by
    obtain rfl := Option.some.inj h
    exact .nil
  | .number n, _, v, h => by
    obtain ⟨m, -, rfl⟩ | ⟨m, -, -, rfl⟩ | ⟨x, -, rfl⟩ := value?_cases h
    · exact .nil
    · exact .nil
    · intro y hy
      obtain rfl := List.mem_singleton.1 hy
      exact ⟨n, List.mem_singleton.2 rfl, .inl h⟩
  | .text s, _, _, h => by
    obtain ⟨t, -, rfl⟩ := Option.map_eq_some_iff.1 h
    exact .nil
  | .array items, 0, _, h => nomatch h
  | .array items, depth + 1, _, h => by
    obtain ⟨vs, hvs, rfl⟩ := Option.map_eq_some_iff.1 h
    exact sourced_itemFloats items hvs
  | .object fields, 0, _, h => nomatch h
  | .object fields, depth + 1, _, h => by
    obtain ⟨vs, hvs, rfl⟩ := Option.map_eq_some_iff.1 h
    intro x hx
    obtain ⟨g, hg, hx⟩ := mem_fieldFloats.1 hx
    exact sourced_fieldFloats fields hvs x (mem_fieldFloats.2 ⟨g, mem_of_mem_sortFields hg, hx⟩)

theorem sourced_itemFloats : ∀ (items : List Document) {depth : Nat} {vs : List Json},
    values? depth items = some vs → Sourced (itemFloats vs) (itemNumerals items)
  | [], _, _, h => by
    obtain rfl := Option.some.inj h
    exact .nil
  | d :: items, _, _, h => by
    rw [values?] at h
    split at h
    next v vs hv hvs =>
      obtain rfl := Option.some.inj h
      exact (sourced_floats d hv).append (sourced_itemFloats items hvs)
    next => cases h

theorem sourced_fieldFloats : ∀ (fields : List (Option String × Document)) {depth : Nat}
    {vs : List (String × Json)}, fieldValues? depth fields = some vs →
      Sourced (fieldFloats vs) (fieldNumerals fields)
  | [], _, _, h => by
    obtain rfl := Option.some.inj h
    exact .nil
  | (k, d) :: fields, _, _, h => by
    unfold fieldValues? at h
    split at h
    next key v vs hkey hv hvs =>
      obtain rfl := Option.some.inj h
      exact (sourced_floats d hv).append (sourced_fieldFloats fields hvs)
    next => cases h

end

end Json

end StudyPlan
