import StudyPlan.Proofs.Rechecking

/-!
# Checking after a year is taken out

A check asks for little more than order.  A course counts as taken if it is planned in an
earlier term, and no two courses change their order when a year is taken out, so a code is
planned before a course exactly if it was (`plannedBefore_withoutYear`).  Only a node that
asks for a year of study looks at the term itself.  So a tree without such a node is judged
as before, with the same reasons (`judge_withoutYear`).

The year that was added last is vacant, and taking it out gives the plan back
(`removeYear_addYear`).  The year must fit: a plan has at most as many terms as a word of 32
bits can count, and of a greater sum too little is left.
-/

namespace StudyPlan

open Prereq

namespace Plan

variable {plan next : Plan} {year : Nat}

/-- A code is planned before a course exactly if it was. -/
theorem plannedBefore_withoutYear (h : plan.Removable year) {p : PlannedCourse}
    (hp : p ∈ plan.courses) (code : String) :
    Setting.plannedBefore ⟨p.term, plan.plannedTerm?⟩ code
      = Setting.plannedBefore ⟨Term.without year p.term, (plan.withoutYear year).plannedTerm?⟩
          code := by
  have horder : ∀ q ∈ plan.courses,
      Term.without year q.term < Term.without year p.term ↔ q.term < p.term := fun q hq =>
    Term.without_lt_iff h.pos (h.vacant q hq) (h.vacant p hp)
  rw [Bool.eq_iff_iff, plannedBefore_iff, plannedBefore_iff]
  constructor
  · rintro ⟨q, hq, hcode, hlt⟩
    exact ⟨_, List.mem_map_of_mem hq, hcode, (horder q hq).2 hlt⟩
  · rintro ⟨q', hq', hcode, hlt⟩
    obtain ⟨q, hq, rfl⟩ := List.mem_map.1 hq'
    exact ⟨q, hq, hcode, (horder q hq).1 hlt⟩

/-- No node of the tree of a planned course asks for a year of study. -/
def AsksNoYear (p : PlannedCourse) : Prop :=
  ∀ n ∈ (Timetable.treeOf p).nodes, n.rule ≠ some .year

/-- A tree that asks for no year of study is judged as before. -/
theorem judge_withoutYear (h : plan.Removable year) {p : PlannedCourse} (hp : p ∈ plan.courses)
    (hyear : AsksNoYear p) :
    (plan.withoutYear year).judge p.course (Term.without year p.term)
      = plan.judge p.course p.term := by
  refine (evaluate_congr_nodes _ fun n hn => ⟨fun hrule => ?_, fun code _ => ?_⟩).symm
  · exact absurd hrule (hyear n hn)
  · exact plannedBefore_withoutYear h hp code

/-! ## The whole of it -/

/-- A plan before and after a year is taken out of it, course by course. -/
structure Shortened (plan next : Plan) : Prop where
  rest : next = { plan with numTerms := next.numTerms, courses := next.courses }
  numTerms : next.numTerms + termsPerYear = plan.numTerms
  length : next.courses.length = plan.courses.length
  /-- A course stays as it is, in the same place of a year. -/
  kept : ∀ {i : Nat} {p q : PlannedCourse}, plan.courses[i]? = some p →
    next.courses[i]? = some q → q = { p with term := q.term } ∧ Term.slot q.term = Term.slot p.term
  /-- Two courses stay in their order. -/
  order : ∀ {i j : Nat} {p p' q q' : PlannedCourse}, plan.courses[i]? = some p →
    next.courses[i]? = some q → plan.courses[j]? = some p' → next.courses[j]? = some q' →
      (q.term < q'.term ↔ p.term < p'.term)
  /-- A course that asks for no year of study is judged as before. -/
  check : ∀ {i : Nat} {p : PlannedCourse}, plan.courses[i]? = some p → AsksNoYear p →
    next.check[i]?.map (fun row => (row.plannedId, row.code, row.verdict))
      = plan.check[i]?.map (fun row => (row.plannedId, row.code, row.verdict))

theorem shortened_withoutYear (ht : plan.WellTimed) (h : plan.Removable year) :
    Shortened plan (plan.withoutYear year) := by
  have hafter : ∀ {i : Nat} {p q : PlannedCourse}, plan.courses[i]? = some p →
      (plan.withoutYear year).courses[i]? = some q →
        q = { p with term := Term.without year p.term } := by
    intro i p q hp hq
    rw [withoutYear, List.getElem?_map, hp] at hq
    exact (Option.some.inj hq).symm
  constructor
  case rest => rfl
  case numTerms => exact Nat.sub_add_cancel ht.termsPerYear_le
  case length => exact List.length_map ..
  case kept =>
    intro i p q hp hq
    obtain rfl := hafter hp hq
    exact ⟨rfl, Term.slot_without h.pos p.term⟩
  case order =>
    intro i j p p' q q' hp hq hp' hq'
    obtain rfl := hafter hp hq
    obtain rfl := hafter hp' hq'
    exact Term.without_lt_iff h.pos (h.vacant p (List.mem_of_getElem? hp))
      (h.vacant p' (List.mem_of_getElem? hp'))
  case check =>
    intro i p hp hyear
    have hjudge := judge_withoutYear h (List.mem_of_getElem? hp) hyear
    simp only [check, List.getElem?_map, withoutYear, hp, Option.map_some] at hjudge ⊢
    rw [hjudge]
    rfl

/-- The year that is added is vacant, and taking it out gives the plan back. -/
theorem removeYear_addYear (ht : plan.WellTimed)
    (hfits : plan.numTerms + termsPerYear < UInt32.size) :
    plan.addYear.removeYear plan.addYear.numYears = .ok plan := by
  have hlater : plan.addYear = { plan with numTerms := plan.numTerms + termsPerYear } := by
    rw [addYear, Word.low32_of_lt hfits]
  have hnumYears : plan.addYear.numYears = plan.numYears + 1 := by
    rw [hlater]
    exact Nat.add_div_right plan.numTerms (by decide)
  have hyears : 1 ≤ plan.numYears := Nat.div_pos ht.termsPerYear_le (by decide)
  have hle : ∀ p ∈ plan.courses, Term.year p.term ≤ plan.numYears := fun p hp =>
    year_le_numYears ht hp
  rw [hnumYears]
  rw [hlater] at hnumYears ⊢
  refine removeYear_eq_ok_iff.2 ⟨⟨by omega, by omega, by omega, fun p hp => ?_⟩, ?_⟩
  · exact Nat.ne_of_lt (Nat.lt_succ_of_le (hle p hp))
  · have hcourses : (plan.courses.map fun p =>
        { p with term := Term.without (plan.numYears + 1) p.term }) = plan.courses := by
      refine (List.map_congr_left fun p hp => ?_).trans (List.map_id _)
      rw [Term.without_of_le (Nat.le_succ_of_le (hle p hp))]
      rfl
    unfold withoutYear
    rw [hcourses, Nat.add_sub_cancel]

/-- A year is taken out exactly if it is a year of the plan, not the only one, and no
course is in it; else the plan that it was to be taken out of stays as it is.  The courses
keep their places in the year and their order, and no check changes that asks for no year of
study.  A year that has just been added at the end can be taken out again, if the plan has
room for it. -/
theorem removeYear_safe (ht : plan.WellTimed) (year : Nat) :
    ((∃ next, plan.removeYear year = .ok next) ↔
      2 ≤ plan.numYears ∧ 1 ≤ year ∧ year ≤ plan.numYears ∧
        ∀ p ∈ plan.courses, Term.year p.term ≠ year) ∧
    (∀ e left, (takeOutYear year).runOn plan = (.error e, left) → left = plan) ∧
    (∀ (catalog : Catalog) (capacity : Nat), (∀ next, plan.removeYear year ≠ .ok next) →
      plan.respond ⟨.removeYear year, catalog, capacity⟩ = plan) ∧
    (∀ next, plan.removeYear year = .ok next → Shortened plan next) ∧
    (plan.numTerms + termsPerYear < UInt32.size →
      plan.addYear.removeYear plan.addYear.numYears = .ok plan) := by
  refine ⟨⟨?_, ?_⟩, ?_, ?_, ?_, removeYear_addYear ht⟩
  · rintro ⟨next, h⟩
    obtain ⟨hyears, hpos, hle, hvacant⟩ := (removeYear_eq_ok_iff.1 h).1
    exact ⟨hyears, hpos, hle, hvacant⟩
  · rintro ⟨hyears, hpos, hle, hvacant⟩
    exact ⟨_, removeYear_eq_ok_iff.2 ⟨⟨hyears, hpos, hle, hvacant⟩, rfl⟩⟩
  · intro e left h
    exact takeOutYear_refused h
  · intro catalog capacity hrefused
    exact respond_of_refused hrefused
  · intro next h
    obtain ⟨hremovable, rfl⟩ := removeYear_eq_ok_iff.1 h
    exact shortened_withoutYear ht hremovable

/-- A required course in a term that asks for what a tree says. -/
def treeCourse (id term : Nat) (code : String) (tree : Node) : PlannedCourse :=
  { id, term, course := { code, credits := 3, prerequisites := some tree } }

/-- A plan of three years without a course in the second.  The second course of the third
year is a term before one that it asks for, and the last asks for the third year. -/
def gapYear : Plan :=
  { Plan.empty "plan" "Plan" 12 with
    courses := [treeCourse 1 1 "MATH 100" .free,
      treeCourse 2 10 "MATH 200" ⟨some .leaf, some .course, some (.text "math100"), []⟩,
      treeCourse 3 9 "MATH 201" ⟨some .root, some .all, none,
        [⟨some .leaf, some .course, some (.text "MATH 100"), []⟩,
          ⟨some .leaf, some .course, some (.text "MATH 200"), []⟩]⟩,
      treeCourse 4 9 "MATH 202" ⟨some .leaf, some .year, some (.text "3"), []⟩]
    nextId := 5 }

/-- The judgements of the first three courses stay, the last one asks for a year. -/
theorem removeYear_safe_gapYear :
    gapYear.WellTimed ∧
    gapYear.check.map (·.verdict) = [.pass, .pass, .fail ["MATH 200 is not in plan"], .pass] ∧
    ∃ next, gapYear.removeYear 2 = .ok next ∧ next.courses.map (·.term) = [1, 6, 5, 5] ∧
      next.check.map (·.verdict) = [.pass, .pass, .fail ["MATH 200 is not in plan"],
        .fail ["Year requirement 3 not met"]] ∧
      Shortened gapYear next := by
  have ht : gapYear.WellTimed := ⟨by decide, by decide, by decide⟩
  have hsafe := removeYear_safe ht 2
  obtain ⟨next, h⟩ := hsafe.1.2 ⟨by decide, by decide, by decide, by decide⟩
  have hshort : Shortened gapYear next := hsafe.2.2.2.1 next h
  cases h
  exact ⟨ht, by decide +kernel, _, rfl, by decide, by decide +kernel, hshort⟩

end Plan

end StudyPlan
