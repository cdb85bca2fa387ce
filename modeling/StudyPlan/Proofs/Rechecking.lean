import StudyPlan.Proofs.Agreement
import StudyPlan.Proofs.Easing
import StudyPlan.Proofs.Footprint
import StudyPlan.Proofs.Moving

/-!
# Checking a changed plan

What a plan tells about a course depends on the plan only through the earliest terms of
the codes that the course's tree asks for.

*More and earlier.*  A course is judged no lower in a plan that keeps what was planned
before it, in the same terms or earlier ones, and no lower in a later term
(`judge_status_le`).  So more courses, or prerequisites in earlier terms, never make a check
fail that did not.  Nor does it harm a course to be moved to a later term: whatever was
planned before it stays where it is (`move_status_le`).

*Elsewhere.*  A change that leaves the courses of the tree's codes in their terms does not
change the judgement, nor its reasons (`judge_congr`).
-/

namespace StudyPlan

open Prereq

namespace Plan

variable {plan next : Plan}

/-- What is planned before a term is planned in the other plan too, and no later. -/
def KeepsBefore (plan next : Plan) (term : Nat) : Prop :=
  ∀ p ∈ plan.courses, p.term < term → ∃ q ∈ next.courses, q.code = p.code ∧ q.term ≤ p.term

theorem plannedTerm?_le {p : PlannedCourse} (hp : p ∈ plan.courses) :
    ∃ t, plan.plannedTerm? p.code = some t ∧ t ≤ p.term := by
  have hterm : p.term ∈ (plan.courses.filter (·.code == p.code)).map (·.term) :=
    mem_plannedTerms.2 ⟨p, hp, rfl, rfl⟩
  obtain ⟨t, ht⟩ := Option.isSome_iff_exists.1 (List.isSome_min?_of_mem hterm)
  exact ⟨t, ht, (List.min?_eq_some_iff.1 ht).2 _ hterm⟩

/-- A code is planned before a term if some course that shows it is. -/
theorem plannedBefore_iff {term : Nat} {code : String} :
    Setting.plannedBefore ⟨term, plan.plannedTerm?⟩ code = true
      ↔ ∃ p ∈ plan.courses, p.code = code ∧ p.term < term := by
  simp only [Setting.plannedBefore, Option.any_eq_true, decide_eq_true_eq]
  constructor
  · rintro ⟨t, ht, hlt⟩
    obtain ⟨p, hp, hcode, rfl⟩ := mem_plannedTerms.1 (List.min?_mem ht)
    exact ⟨p, hp, hcode, hlt⟩
  · rintro ⟨p, hp, rfl, hlt⟩
    obtain ⟨t, ht, hle⟩ := plannedTerm?_le hp
    exact ⟨t, ht, Nat.lt_of_le_of_lt hle hlt⟩

theorem KeepsBefore.eases {term term' : Nat} (h : plan.KeepsBefore next term)
    (hterm : term ≤ term') :
    Setting.Eases ⟨term, plan.plannedTerm?⟩ ⟨term', next.plannedTerm?⟩ where
  later := hterm
  taken code t ht hlt := by
    obtain ⟨p, hp, rfl, rfl⟩ := mem_plannedTerms.1 (List.min?_mem ht)
    obtain ⟨q, hq, hcode, hle⟩ := h p hp hlt
    obtain ⟨t', ht', hle'⟩ := plannedTerm?_le hq
    exact ⟨t', hcode ▸ ht', by simp only at hlt ⊢; omega⟩

/-- A course is judged no lower in a later term and in a plan that keeps what was planned
before it. -/
theorem judge_status_le {term term' : Nat} (hterm : term ≤ term')
    (h : plan.KeepsBefore next term) (c : Course) :
    (plan.judge c term).status ≤ (next.judge c term').status :=
  (h.eases hterm).status_le _

/-! ## Moving a course -/

theorem mem_insertAt {index : Nat} {p q : PlannedCourse} {group : List PlannedCourse} :
    q ∈ insertAt index p group ↔ q = p ∨ q ∈ group := by
  rw [insertAt, List.mem_append, List.mem_cons, or_left_comm, ← List.mem_append,
    List.take_append_drop]

/-- Moving a course leaves the others in their terms. -/
theorem mem_of_move {id dest index : Nat} (ht : plan.WellTimed) (hids : plan.Distinct)
    (h : plan.move id dest index = .ok next) {q : PlannedCourse} (hq : q ∈ plan.courses)
    (hne : q.id ≠ id) : q ∈ next.courses := by
  obtain ⟨p, -, rfl, -, -, rfl⟩ := move_eq ht hids h
  have hwithin := ht.within q hq
  have hothers : q ∈ plan.others p.id (q.term - 1 + 1) := by
    rw [Nat.sub_add_cancel hwithin.1]
    exact List.mem_filter.2 ⟨List.mem_filter.2 ⟨hq, by simp⟩, by simpa using hne⟩
  refine List.mem_flatMap.2 ⟨q.term - 1, List.mem_range.2 (by omega), ?_⟩
  unfold termAfterMove
  split
  · exact mem_insertAt.2 (Or.inr hothers)
  · exact hothers

/-- A course that is moved to a later term is judged no lower there. -/
theorem move_status_le {id dest index : Nat} (ht : plan.WellTimed) (hids : plan.Distinct)
    (h : plan.move id dest index = .ok next) {p : PlannedCourse} (hp : p ∈ plan.courses)
    (hid : p.id = id) (hlater : p.term ≤ dest) :
    (plan.judge p.course p.term).status ≤ (next.judge p.course dest).status := by
  refine judge_status_le hlater (fun q hq hlt => ⟨q, ?_, rfl, Nat.le_refl _⟩) p.course
  refine mem_of_move ht hids h hq fun hqid => ?_
  -- The course itself is not before its own term.
  have hself : q = p := List.inj_on_of_nodup_map hids.nodup hq hp (hqid.trans hid.symm)
  rw [hself] at hlt
  exact Nat.lt_irrefl _ hlt

/-! ## Changes elsewhere -/

/-- A judgement, with its reasons, stays the same if the courses that show a code of the
tree stay in their terms. -/
theorem judge_congr {c : Course} {term : Nat}
    (h : ∀ code ∈ (c.prerequisites.getD .free).codes, ∀ t,
      (∃ p ∈ plan.courses, p.code = code ∧ p.term = t) ↔
        ∃ q ∈ next.courses, q.code = code ∧ q.term = t) :
    plan.judge c term = next.judge c term := by
  have hterm : (⟨term, plan.plannedTerm?⟩ : Setting).term
      = (⟨term, next.plannedTerm?⟩ : Setting).term := rfl
  refine evaluate_congr_codeList hterm fun code hcode => Bool.eq_iff_iff.2 ?_
  have hsame := h code (CodeSet.mem_ofList.2 hcode)
  rw [plannedBefore_iff, plannedBefore_iff]
  constructor
  · rintro ⟨p, hp, hpcode, hlt⟩
    obtain ⟨q, hq, hqcode, hqterm⟩ := (hsame p.term).1 ⟨p, hp, hpcode, rfl⟩
    exact ⟨q, hq, hqcode, hqterm ▸ hlt⟩
  · rintro ⟨q, hq, hqcode, hlt⟩
    obtain ⟨p, hp, hpcode, hpterm⟩ := (hsame q.term).2 ⟨q, hq, hqcode, rfl⟩
    exact ⟨p, hp, hpcode, hpterm ▸ hlt⟩

end Plan

end StudyPlan
