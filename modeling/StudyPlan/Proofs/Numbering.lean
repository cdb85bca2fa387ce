import Mathlib.Data.List.Nodup
import StudyPlan.Plan.Basic

/-!
# Terms and numbers

Two things hold of a plan at any time.  It is *well timed*: it has whole years, at
least one, and its courses are in its terms.  And its courses are *numbered*: their
numbers are different ones from 1 on, and the next number to give out is greater
(`Numbered`).  Where only the numbers of the courses matter, and not the next one,
nothing is asked of the next one (`Distinct`).

A planned course that is pushed gets the next number if it has none, and keeps a
number that no other has.  The next number is then one more than the greatest, as it was
before (`Counted.push`), unless the course came with the greatest number of 64 bits.
After that the numbers change no more: every other step lists the same numbers, perhaps in
another order (`Numbered.of_perm`).

A plan keeps its next number, but a record does not.  It is told by the others where it is
one more than the greatest of them (`Counted.nextId_eq`).
-/

namespace StudyPlan

namespace Plan

variable {plan next : Plan}

/-- A plan has whole years, and its courses are in its terms. -/
structure WellTimed (plan : Plan) : Prop where
  pos : 0 < plan.numTerms
  years : plan.numTerms % termsPerYear = 0
  within : ∀ p ∈ plan.courses, 1 ≤ p.term ∧ p.term ≤ plan.numTerms

theorem WellTimed.termsPerYear_le (h : plan.WellTimed) : termsPerYear ≤ plan.numTerms := by
  have hpos := h.pos
  have hyears := h.years
  unfold termsPerYear at *
  omega

/-- The planned courses have numbers of their own. -/
structure Distinct (plan : Plan) : Prop where
  pos : ∀ p ∈ plan.courses, 0 < p.id
  nodup : (plan.courses.map (·.id)).Nodup

/-- The planned courses have numbers of their own, and the next number is beyond them. -/
structure Numbered (plan : Plan) : Prop extends Distinct plan where
  lt : ∀ p ∈ plan.courses, p.id < plan.nextId

/-- The next number is one more than the greatest. -/
structure Counted (plan : Plan) : Prop extends Numbered plan where
  next : plan.nextId = 1 ∨ ∃ p ∈ plan.courses, p.id + 1 = plan.nextId

theorem Counted.next_pos (h : plan.Counted) : 0 < plan.nextId := by
  cases h.next with
  | inl hone => exact hone ▸ Nat.one_pos
  | inr hmax =>
    obtain ⟨p, -, heq⟩ := hmax
    exact heq ▸ Nat.succ_pos p.id

theorem Counted.le_nextId (h : plan.Counted) (hids : ∀ p ∈ plan.courses, p.id < next.nextId)
    (hpos : 0 < next.nextId) : plan.nextId ≤ next.nextId := by
  cases h.next with
  | inl hone => exact hone ▸ hpos
  | inr hmax =>
    obtain ⟨p, hp, heq⟩ := hmax
    exact heq ▸ hids p hp

/-- The next number is told by the planned courses. -/
theorem Counted.nextId_eq (h : plan.Counted) (h' : next.Counted)
    (hcourses : plan.courses = next.courses) : plan.nextId = next.nextId :=
  Nat.le_antisymm (h.le_nextId (hcourses ▸ h'.lt) h'.next_pos)
    (h'.le_nextId (hcourses ▸ h.lt) h.next_pos)

/-! ## Steps -/

theorem distinct_of_nil (h : plan.courses = []) : plan.Distinct where
  pos p hp := by simp [h] at hp
  nodup := by simp [h]

theorem counted_empty (id title : String) (numTerms : Nat) (userId : Option String) :
    Counted { Plan.empty id title numTerms with userId } where
  toDistinct := distinct_of_nil rfl
  lt _ hp := nomatch hp
  next := Or.inl rfl

theorem exists_of_perm (hids : (plan.courses.map (·.id)).Perm (next.courses.map (·.id)))
    {p : PlannedCourse} (hp : p ∈ next.courses) : ∃ q ∈ plan.courses, q.id = p.id :=
  List.mem_map.1 (hids.mem_iff.2 (List.mem_map_of_mem hp))

theorem Distinct.of_perm (h : plan.Distinct)
    (hids : (plan.courses.map (·.id)).Perm (next.courses.map (·.id))) : next.Distinct where
  pos p hp := by
    obtain ⟨q, hq, hid⟩ := exists_of_perm hids hp
    exact hid ▸ h.pos q hq
  nodup := hids.nodup_iff.1 h.nodup

theorem Numbered.of_perm (h : plan.Numbered)
    (hids : (plan.courses.map (·.id)).Perm (next.courses.map (·.id)))
    (hnext : next.nextId = plan.nextId) : next.Numbered where
  toDistinct := h.toDistinct.of_perm hids
  lt p hp := by
    obtain ⟨q, hq, hid⟩ := exists_of_perm hids hp
    exact hnext ▸ hid ▸ h.lt q hq

theorem Counted.of_perm (h : plan.Counted)
    (hids : (plan.courses.map (·.id)).Perm (next.courses.map (·.id)))
    (hnext : next.nextId = plan.nextId) : next.Counted where
  toNumbered := h.toNumbered.of_perm hids hnext
  next := by
    refine hnext ▸ h.next.imp_right fun ⟨q, hq, heq⟩ => ?_
    obtain ⟨p, hp, hid⟩ := exists_of_perm hids.symm hq
    exact ⟨p, hp, (congrArg (· + 1) hid).trans heq⟩

theorem idFor_eq {p : PlannedCourse} (hpos : 0 < p.id) : plan.idFor p = p.id :=
  if_neg (Nat.ne_of_gt hpos)

theorem push_new (plan : Plan) {p : PlannedCourse} (hzero : p.id = 0) :
    (plan.push p).courses = plan.courses ++ [{ p with id := plan.nextId }] ∧
      (plan.push p).nextId = plan.nextId + 1 := by
  simp [push, idFor, nextIdAfter, hzero]

/-- A course that is pushed is the only new one. -/
theorem forall_mem_push {P : PlannedCourse → Prop} {p : PlannedCourse}
    (h : ∀ q ∈ plan.courses, P q) (hp : P { p with id := plan.idFor p }) :
    ∀ q ∈ (plan.push p).courses, P q := by
  intro q hq
  cases List.mem_append.1 hq with
  | inl hold => exact h q hold
  | inr hlast => exact List.mem_singleton.1 hlast ▸ hp

theorem Distinct.push (h : plan.Distinct) {p : PlannedCourse} (hpos : 0 < plan.idFor p)
    (hnew : ∀ q ∈ plan.courses, q.id ≠ plan.idFor p) : (plan.push p).Distinct where
  pos := forall_mem_push h.pos hpos
  nodup := by
    have hids : (plan.push p).courses.map (·.id)
        = (plan.courses.map (·.id)).concat (plan.idFor p) := by
      rw [List.concat_eq_append]
      exact List.map_append
    rw [hids]
    refine List.Nodup.concat (fun hin => ?_) h.nodup
    obtain ⟨q, hq, hid⟩ := List.mem_map.1 hin
    exact hnew q hq hid

/-- Unless a planned course comes with the greatest number, the next number is beyond those
before and beyond its own. -/
theorem nextIdAfter_eq {p : PlannedCourse} (hfits : p.id + 1 < UInt64.size) :
    plan.nextIdAfter p = Max.max plan.nextId (plan.idFor p + 1) := by
  unfold nextIdAfter idFor
  split
  · omega
  · split
    · rw [Word.low64_of_lt hfits]
      omega
    · omega

theorem Counted.push (h : plan.Counted) {p : PlannedCourse}
    (hp : p.id = 0 ∨ ∀ q ∈ plan.courses, q.id ≠ p.id) (hfits : p.id + 1 < UInt64.size) :
    (plan.push p).Counted := by
  have hpos : 0 < plan.idFor p := by
    unfold idFor
    split
    · exact h.next_pos
    · omega
  have hnew : ∀ q ∈ plan.courses, q.id ≠ plan.idFor p := by
    intro q hq
    unfold idFor
    split
    · exact Nat.ne_of_lt (h.lt q hq)
    next hne => exact hp.resolve_left hne q hq
  have hnext : (plan.push p).nextId = Max.max plan.nextId (plan.idFor p + 1) :=
    nextIdAfter_eq hfits
  constructor
  case toNumbered =>
    refine ⟨h.toDistinct.push hpos hnew, ?_⟩
    rw [hnext]
    exact forall_mem_push (fun q hq => Nat.lt_of_lt_of_le (h.lt q hq) (Nat.le_max_left ..))
      (Nat.le_max_right ..)
  case next =>
    rw [hnext]
    by_cases hle : plan.nextId ≤ plan.idFor p + 1
    · rw [Nat.max_eq_right hle]
      exact Or.inr ⟨_, List.mem_append_right _ (List.mem_singleton.2 rfl), rfl⟩
    · rw [Nat.max_eq_left (Nat.le_of_not_le hle)]
      exact h.next.imp_right fun ⟨q, hq, heq⟩ => ⟨q, List.mem_append_left _ hq, heq⟩

theorem Counted.pushNew (h : plan.Counted) {p : PlannedCourse} (hzero : p.id = 0) :
    (plan.push p).Counted := by
  refine h.push (Or.inl hzero) ?_
  rw [hzero]
  decide

/-! ## One planned course -/

/-- What holds of a list still holds after one element is exchanged. -/
theorem forall_mem_replace {α : Type} {P : α → Prop} {before after : List α} {a b : α}
    (h : ∀ c ∈ before ++ a :: after, P c) (hb : P a → P b) : ∀ c ∈ before ++ b :: after, P c := by
  intro c hc
  cases List.mem_cons.1 (List.perm_middle.mem_iff.1 hc) with
  | inl hnew => exact hnew ▸ hb (h a (List.perm_middle.mem_iff.2 (List.mem_cons_self ..)))
  | inr hold => exact h c (List.perm_middle.mem_iff.2 (List.mem_cons_of_mem _ hold))

theorem id_ne_of_nodup {before after : List PlannedCourse} {slot : PlannedCourse}
    (hids : ((before ++ slot :: after).map (·.id)).Nodup) :
    ∀ p ∈ before ++ after, p.id ≠ slot.id := by
  have hmiddle : ((slot :: (before ++ after)).map (·.id)).Nodup :=
    (List.perm_middle.map _).nodup_iff.1 hids
  intro p hp hid
  exact (List.nodup_cons.1 hmiddle).1 (List.mem_map.2 ⟨p, hp, hid⟩)

/-- The other courses have other numbers. -/
theorem Distinct.id_ne (h : plan.Distinct) {before after : List PlannedCourse}
    {slot : PlannedCourse} (hsplit : plan.courses = before ++ slot :: after) :
    ∀ p ∈ before ++ after, p.id ≠ slot.id :=
  id_ne_of_nodup (hsplit ▸ h.nodup)

/-- With distinct numbers, a planned course is found by its number. -/
theorem find?_of_nodup {courses : List PlannedCourse} (hids : (courses.map (·.id)).Nodup)
    {p : PlannedCourse} (hp : p ∈ courses) : courses.find? (·.id == p.id) = some p := by
  obtain ⟨before, after, rfl⟩ := List.append_of_mem hp
  refine List.find?_eq_some_iff_append.2 ⟨beq_self_eq_true _, before, after, rfl, ?_⟩
  intro q hq
  have hne := id_ne_of_nodup hids q (List.mem_append_left _ hq)
  simpa using hne

theorem Distinct.find?_of_mem (h : plan.Distinct) {p : PlannedCourse} (hp : p ∈ plan.courses) :
    plan.courses.find? (·.id == p.id) = some p :=
  find?_of_nodup h.nodup hp

/-- Changing the planned course of a number leaves those before it and after it. -/
theorem updateFirst_split {id : Nat} {courses : List PlannedCourse} {slot : PlannedCourse}
    (h : courses.find? (·.id == id) = some slot) :
    slot.id = id ∧ ∃ before after, courses = before ++ slot :: after ∧
      ∀ f, updateFirst id f courses = before ++ f slot :: after := by
  induction courses with
  | nil => cases h
  | cons p rest ih =>
    by_cases hp : p.id = id
    · rw [List.find?_cons_of_pos (by simpa using hp)] at h
      obtain rfl := Option.some.inj h
      exact ⟨hp, [], rest, rfl, fun f => if_pos hp⟩
    · rw [List.find?_cons_of_neg (by simpa using hp)] at h
      obtain ⟨hid, before, after, hrest, heq⟩ := ih h
      refine ⟨hid, p :: before, after, congrArg (p :: ·) hrest, fun f => ?_⟩
      rw [updateFirst, if_neg hp, heq]
      rfl

end Plan

end StudyPlan
