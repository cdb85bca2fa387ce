import StudyPlan.Plan.Edit

/-!
# Refused changes

A plan is changed in place, and changes that are refused leave what was changed before
they came to their refusal.  Each change to a plan has its checks first.  So its result is
told by them alone: an error with the plan as it was, or the plan that is made of it
(`moveCourse_eq`, `substituteCourse_eq`, `resetCourse_eq`, `takeOutYear_eq`).

Taking a year out is the one change of two steps, and nothing is checked between them.  So
no edit that is refused has changed anything (`change_refused`), and it would do no harm to
make an edit on the plan itself and not on a copy.
-/

namespace StudyPlan

namespace Plan

variable {plan next left : Plan} {e : PlanningError} {changes : Changes Unit}

theorem runOn_get_bind {α : Type} (k : Plan → Changes α) (plan : Plan) :
    Changes.runOn (get >>= k) plan = (k plan).runOn plan := rfl

/-! ## Copies -/

theorem changed_eq_ok_iff : plan.changed changes = .ok next ↔ changes.runOn plan = (.ok (), next) := by
  unfold changed
  cases changes.runOn plan with
  | mk result left =>
    cases result with
    | ok u => exact ⟨fun h => congrArg _ (Except.ok.inj h), fun h => congrArg _ (Prod.mk.inj h).2⟩
    | error e => exact ⟨fun h => (nomatch h), fun h => (nomatch h)⟩

theorem changed_of_refused (h : changes.runOn plan = (.error e, left)) :
    plan.changed changes = .error e := by
  rw [changed, h]

/-! ## What each change does -/

theorem moveCourse_eq (plan : Plan) (id term index : Nat) :
    (moveCourse id term index).runOn plan =
      if (plan.get? id).isNone then (.error (.notPlanned id), plan)
      else if term = 0 ∨ plan.numTerms < term then
        (.error (.noSuchTerm term plan.numTerms), plan)
      else
        match takeOut id plan.groups with
        | none => (.error (.notPlanned id), plan)
        | some (p, groups) =>
          (.ok (), { plan with
            courses := ungroup (groups.modify (term - 1) (insertAt index p)) }) := by
  rw [moveCourse, runOn_get_bind]
  dsimp only
  split
  · rfl
  · split
    · rfl
    · cases takeOut id plan.groups with
      | none => rfl
      | some taken => rfl

theorem substituteCourse_eq (plan : Plan) (id : Nat) (course : Course) :
    (substituteCourse id course).runOn plan =
      match plan.get? id with
      | none => (.error (.notPlanned id), plan)
      | some slot =>
        if !slot.isElective then (.error (.notElective id), plan)
        else if plan.holdsCode course.code (some id) then
          (.error (.alreadyPlanned course.code), plan)
        else (.ok (), plan.update id fun p => { p with course }) := by
  rw [substituteCourse, runOn_get_bind]
  cases plan.get? id with
  | none => rfl
  | some slot =>
    dsimp only
    split
    · rfl
    · split
      · rfl
      · rfl

theorem resetCourse_eq (plan : Plan) (id : Nat) :
    (resetCourse id).runOn plan =
      match plan.get? id with
      | none => (.error (.notPlanned id), plan)
      | some slot =>
        match slot.placeholder, slot.isElective with
        | some course, true => (.ok (), plan.update id fun p => { p with course })
        | _, _ => (.error (.notElective id), plan) := by
  rw [resetCourse, runOn_get_bind]
  cases plan.get? id with
  | none => rfl
  | some slot =>
    cases hplaceholder : slot.placeholder with
    | none =>
      simp only [hplaceholder]
      rfl
    | some course =>
      cases helective : slot.isElective with
      | false =>
        simp only [hplaceholder, helective]
        rfl
      | true =>
        simp only [hplaceholder, helective]
        rfl

theorem takeOutYear_eq (plan : Plan) (year : Nat) :
    (takeOutYear year).runOn plan =
      if year = 0 ∨ plan.numYears < year then (.error (.noSuchYear year plan.numYears), plan)
      else if 0 < (plan.inYear year).length then
        (.error (.yearInUse year (plan.inYear year).length), plan)
      else if plan.numYears = 1 then (.error .lastYear, plan)
      else
        (.ok (), { plan with
          numTerms := plan.numTerms - termsPerYear
          courses := plan.courses.map fun p =>
            if year < Term.year p.term then { p with term := p.term - termsPerYear } else p }) := by
  rw [takeOutYear, runOn_get_bind]
  dsimp only
  split
  · rfl
  · split
    · rfl
    · split
      · rfl
      · rfl

/-! ## What is left of a plan -/

/-- A check that refuses leaves the plan, so that only what follows it counts. -/
theorem left_of_guard {c : Prop} [Decidable c] {e' : PlanningError}
    {rest : Except PlanningError Unit × Plan}
    (h : (if c then (.error e', plan) else rest) = (.error e, left))
    (later : rest = (.error e, left) → left = plan) : left = plan := by
  split at h
  · exact (Prod.mk.inj h).2.symm
  · exact later h

theorem moveCourse_refused {id term index : Nat}
    (h : (moveCourse id term index).runOn plan = (.error e, left)) : left = plan := by
  rw [moveCourse_eq] at h
  refine left_of_guard h fun h => left_of_guard h fun h => ?_
  split at h
  · exact (Prod.mk.inj h).2.symm
  · cases h

theorem substituteCourse_refused {id : Nat} {course : Course}
    (h : (substituteCourse id course).runOn plan = (.error e, left)) : left = plan := by
  rw [substituteCourse_eq] at h
  split at h
  · exact (Prod.mk.inj h).2.symm
  · exact left_of_guard h fun h => left_of_guard h fun h => (nomatch h)

theorem resetCourse_refused {id : Nat} (h : (resetCourse id).runOn plan = (.error e, left)) :
    left = plan := by
  rw [resetCourse_eq] at h
  split at h
  · exact (Prod.mk.inj h).2.symm
  · split at h
    · cases h
    · exact (Prod.mk.inj h).2.symm

theorem takeOutYear_refused {year : Nat} (h : (takeOutYear year).runOn plan = (.error e, left)) :
    left = plan := by
  rw [takeOutYear_eq] at h
  refine left_of_guard h fun h => left_of_guard h fun h => left_of_guard h fun h => ?_
  cases h

/-- An edit that is refused leaves the plan as it is. -/
theorem change_refused {catalog : Catalog} {capacity : Nat} {edit : Edit}
    (h : (change catalog capacity edit).runOn plan = (.error e, left)) : left = plan := by
  cases edit with
  | move id term index => exact moveCourse_refused h
  | substitute id code =>
    cases hget : catalog.get? code with
    | none =>
      simp only [change, hget] at h
      exact (Prod.mk.inj h).2.symm
    | some course =>
      simp only [change, hget] at h
      exact substituteCourse_refused h
  | reset id => exact resetCourse_refused h
  | addYear => cases h
  | removeYear year => exact takeOutYear_refused h
  | rename title => cases h
  | enforceOrder => cases h

end Plan

end StudyPlan
