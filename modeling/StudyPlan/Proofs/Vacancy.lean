import StudyPlan.Proofs.Numbering
import StudyPlan.Proofs.Refusing

/-!
# Taking out a year

A year can be taken out if the plan has another one and no course is in it
(`removeYear_eq_ok_iff`).  The terms after it move up by a year (`Term.without`).  A term
keeps its place in the year (`Term.slot_without`), and no two terms outside the year change
their order (`Term.without_lt_iff`): those before it stay, those after it move by the same
number, and what lies between is as long as that number.

So the plan is well timed again: a course of the last year moves up, unless the year that is
taken out is the last one, which no course is in.
-/

namespace StudyPlan

namespace Term

/-- What a term becomes when a year is taken out. -/
def without (year term : Nat) : Nat :=
  if year < Term.year term then term - termsPerYear else term

theorem slot_without {year : Nat} (hyear : 1 ≤ year) (term : Nat) :
    slot (without year term) = slot term := by
  unfold without
  split
  next hlater =>
    have hmod : (term - termsPerYear - 1) % termsPerYear = (term - 1) % termsPerYear := by
      unfold Term.year termsPerYear at *
      omega
    rw [slot, slot, hmod]
  next => rfl

/-- Terms outside the year that is taken out keep their order. -/
theorem without_lt_iff {year s t : Nat} (hyear : 1 ≤ year) (hs : Term.year s ≠ year)
    (ht : Term.year t ≠ year) : without year s < without year t ↔ s < t := by
  unfold without
  by_cases hs' : year < Term.year s
  · by_cases ht' : year < Term.year t
    · rw [if_pos hs', if_pos ht']
      unfold Term.year termsPerYear at *
      omega
    · rw [if_pos hs', if_neg ht']
      unfold Term.year termsPerYear at *
      omega
  · by_cases ht' : year < Term.year t
    · rw [if_neg hs', if_pos ht']
      unfold Term.year termsPerYear at *
      omega
    · rw [if_neg hs', if_neg ht']

/-- Terms outside the year that is taken out are terms of the years that are left. -/
theorem without_within {year term years : Nat} (hyear : 1 ≤ year ∧ year ≤ years)
    (hother : Term.year term ≠ year) (hterm : 1 ≤ term ∧ Term.year term ≤ years) :
    1 ≤ without year term ∧ Term.year (without year term) ≤ years - 1 := by
  unfold without
  split
  next hlater =>
    unfold Term.year termsPerYear at *
    omega
  next hearlier => exact ⟨hterm.1, by omega⟩

theorem without_of_le {year term : Nat} (h : Term.year term ≤ year) : without year term = term :=
  if_neg (Nat.not_lt.2 h)

end Term

namespace Plan

variable {plan next : Plan} {year : Nat}

theorem year_le_numYears (ht : plan.WellTimed) {p : PlannedCourse} (hp : p ∈ plan.courses) :
    Term.year p.term ≤ plan.numYears := by
  have hwithin := ht.within p hp
  have hyears := ht.years
  unfold Term.year numYears termsPerYear at *
  omega

/-- A year can be taken out: it is not the only one, and no course is in it. -/
structure Removable (plan : Plan) (year : Nat) : Prop where
  years : 2 ≤ plan.numYears
  pos : 1 ≤ year
  le : year ≤ plan.numYears
  vacant : ∀ p ∈ plan.courses, Term.year p.term ≠ year

/-- The plan without a year. -/
def withoutYear (plan : Plan) (year : Nat) : Plan :=
  { plan with
    numTerms := plan.numTerms - termsPerYear
    courses := plan.courses.map fun p => { p with term := Term.without year p.term } }

theorem length_inYear_pos_iff :
    0 < (plan.inYear year).length ↔ ∃ p ∈ plan.courses, Term.year p.term = year := by
  simp [inYear, List.length_pos_iff_exists_mem]

theorem map_without (year : Nat) (courses : List PlannedCourse) :
    (courses.map fun p =>
        if year < Term.year p.term then { p with term := p.term - termsPerYear } else p)
      = courses.map fun p => { p with term := Term.without year p.term } := by
  refine List.map_congr_left fun p _ => ?_
  unfold Term.without
  by_cases hlater : year < Term.year p.term
  · rw [if_pos hlater, if_pos hlater]
  · rw [if_neg hlater, if_neg hlater]

theorem takeOutYear_of_removable (h : plan.Removable year) :
    (takeOutYear year).runOn plan = (.ok (), plan.withoutYear year) := by
  have hyear : ¬ (year = 0 ∨ plan.numYears < year) := by
    have hpos := h.pos
    have hle := h.le
    omega
  have hvacant : ¬ 0 < (plan.inYear year).length := by
    rw [length_inYear_pos_iff]
    rintro ⟨p, hp, hin⟩
    exact h.vacant p hp hin
  have hlast : ¬ plan.numYears = 1 := by
    have hyears := h.years
    omega
  rw [takeOutYear_eq, if_neg hyear, if_neg hvacant, if_neg hlast, map_without]
  rfl

theorem removable_of_ok (h : (takeOutYear year).runOn plan = (.ok (), next)) : plan.Removable year := by
  rw [takeOutYear_eq] at h
  split at h
  next => cases h
  next hyear =>
    split at h
    next => cases h
    next hvacant =>
      split at h
      next => cases h
      next hlast =>
        refine ⟨by omega, by omega, by omega, fun p hp hin => ?_⟩
        exact hvacant (length_inYear_pos_iff.2 ⟨p, hp, hin⟩)

theorem removeYear_eq_ok_iff :
    plan.removeYear year = .ok next ↔ plan.Removable year ∧ next = plan.withoutYear year := by
  rw [removeYear, changed_eq_ok_iff]
  constructor
  · intro h
    have hremovable := removable_of_ok h
    rw [takeOutYear_of_removable hremovable] at h
    exact ⟨hremovable, (Prod.mk.inj h).2.symm⟩
  · rintro ⟨h, rfl⟩
    exact takeOutYear_of_removable h

theorem WellTimed.withoutYear (ht : plan.WellTimed) (h : plan.Removable year) :
    (plan.withoutYear year).WellTimed := by
  have hyears := ht.years
  have htwo := h.years
  unfold numYears at htwo
  unfold termsPerYear at hyears htwo
  constructor
  case pos =>
    show 0 < plan.numTerms - 4
    omega
  case years =>
    show (plan.numTerms - 4) % 4 = 0
    omega
  case within =>
    intro q hq
    obtain ⟨p, hp, rfl⟩ := List.mem_map.1 hq
    obtain ⟨hpos, hle⟩ := Term.without_within ⟨h.pos, h.le⟩ (h.vacant p hp)
      ⟨(ht.within p hp).1, year_le_numYears ht hp⟩
    refine ⟨hpos, ?_⟩
    show Term.without year p.term ≤ plan.numTerms - 4
    unfold Term.year numYears termsPerYear at hle
    omega

end Plan

end StudyPlan
