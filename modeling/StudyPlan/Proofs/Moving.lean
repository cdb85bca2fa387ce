import StudyPlan.Proofs.Editing

/-!
# Where a moved course goes

Moving takes the groups of a plan apart and lists them again, with the moved course in
another place.  In a plan that is well timed, a group is a term (`groups_eq`).  Numbers
tell the courses apart, so taking one out leaves every group with its other courses, in
their order (`takeOut_eq`).  So the plan after a move is told term by term: every term has
its courses as before, without the moved one, and the term that was asked for has the moved
course at the place that was asked for, or at its end (`move_eq`).

A move is refused for its number or for its term, and for nothing else: the groups hold
every course of the plan, so that the course is found in them (`exists_takeOut`).  Both are
checked before the groups are made, and the plan is given its new courses at the end.
-/

namespace StudyPlan

namespace Plan

variable {plan next : Plan}

/-- The planned courses of a term, without the one of a number. -/
def others (plan : Plan) (id term : Nat) : List PlannedCourse :=
  (plan.inTerm term).filter (·.id != id)

/-- The planned courses of a term after one is moved to a place in a term. -/
def termAfterMove (plan : Plan) (p : PlannedCourse) (dest index term : Nat) : List PlannedCourse :=
  if term = dest then insertAt index { p with term } (plan.others p.id term)
  else plan.others p.id term

theorem groups_eq (ht : plan.WellTimed) :
    plan.groups = (List.range plan.numTerms).map fun i => plan.inTerm (i + 1) := by
  refine List.map_congr_left fun i _ => List.filter_congr fun p hp => ?_
  have hwithin := ht.within p hp
  have hgroup : plan.groupOf p = p.term := by
    unfold groupOf
    omega
  rw [hgroup]

theorem filter_id_ne {id : Nat} {courses : List PlannedCourse} (h : ∀ p ∈ courses, p.id ≠ id) :
    courses.filter (·.id != id) = courses :=
  List.filter_eq_self.2 fun p hp => by simpa using h p hp

theorem takeOut_eq {id : Nat} {p : PlannedCourse} :
    ∀ {groups rest : List (List PlannedCourse)}, takeOut id groups = some (p, rest) →
      (groups.flatten.map (·.id)).Nodup →
        p ∈ groups.flatten ∧ p.id = id ∧ rest = groups.map (·.filter (·.id != id))
  | [], _, h, _ => by cases h
  | group :: groups, rest, h, hids => by
    rw [List.flatten_cons, List.map_append] at hids
    obtain ⟨hgroup, hgroups, hdisj⟩ := List.nodup_append.1 hids
    unfold takeOut at h
    cases hfind : group.find? (·.id == id) with
    | some q =>
      simp only [hfind, Option.some.injEq, Prod.mk.injEq] at h
      obtain ⟨rfl, rfl⟩ := h
      obtain ⟨hq, before, after, rfl, hbefore⟩ := List.find?_eq_some_iff_append.1 hfind
      obtain rfl : q.id = id := by simpa using hq
      have hother := id_ne_of_nodup hgroup
      have hleft : (before ++ q :: after).eraseP (·.id == q.id)
          = (before ++ q :: after).filter (·.id != q.id) := by
        rw [List.eraseP_append_right _ (by simpa using hbefore),
          List.eraseP_cons_of_pos (by simp), List.filter_append,
          List.filter_cons_of_neg (by simp), ← List.filter_append, filter_id_ne hother]
      have hrest : groups.map (·.filter (·.id != q.id)) = groups := by
        refine (List.map_congr_left fun g hg =>
          filter_id_ne fun r hr hid => ?_).trans (List.map_id _)
        refine hdisj q.id (List.mem_map_of_mem (by simp)) r.id ?_ hid.symm
        exact List.mem_map_of_mem (List.mem_flatten_of_mem hg hr)
      refine ⟨by simp, rfl, ?_⟩
      rw [List.map_cons, hrest, hleft]
    | none =>
      simp only [hfind, Option.map_eq_some_iff, Prod.mk.injEq, Prod.exists] at h
      obtain ⟨q, rest', hrest, rfl, rfl⟩ := h
      obtain ⟨hmem, hid, heq⟩ := takeOut_eq hrest hgroups
      have hnone : group.filter (·.id != id) = group :=
        filter_id_ne fun r hr => by simpa using List.find?_eq_none.1 hfind r hr
      refine ⟨List.mem_append_right _ hmem, hid, ?_⟩
      rw [List.map_cons, hnone, heq]

theorem modify_map_range {α : Type} (f : α → α) (groups : Nat → α) (k n : Nat) :
    ((List.range n).map groups).modify k f
      = (List.range n).map fun i => if i = k then f (groups i) else groups i := by
  refine List.ext_getElem? fun i => ?_
  rw [List.getElem?_modify, List.getElem?_map, List.getElem?_map]
  by_cases hi : i < n
  · rw [List.getElem?_range hi]
    by_cases hk : k = i
    · simp [hk]
    · simp [hk, Ne.symm hk]
  · simp [hi]

theorem ungroup_map_range (groups : Nat → List PlannedCourse) (n : Nat) :
    ungroup ((List.range n).map groups)
      = (List.range n).flatMap fun i => (groups i).map fun p => { p with term := i + 1 } := by
  have hrange : (List.range n).zipIdx = (List.range n).map fun i => (i, i) := by
    refine List.ext_getElem? fun i => ?_
    rw [List.getElem?_zipIdx, List.getElem?_map]
    by_cases hi : i < n
    · simp [List.getElem?_range hi]
    · simp [hi]
  rw [ungroup, List.zipIdx_map, hrange, List.map_map, List.flatMap_map]
  rfl

theorem map_insertAt (f : PlannedCourse → PlannedCourse) (index : Nat) (p : PlannedCourse)
    (group : List PlannedCourse) :
    (insertAt index p group).map f = insertAt index (f p) (group.map f) := by
  simp [insertAt, List.map_take, List.map_drop]

theorem map_term_others (plan : Plan) (id term : Nat) :
    (plan.others id term).map (fun p => { p with term }) = plan.others id term := by
  refine (List.map_congr_left fun p hp => ?_).trans (List.map_id _)
  have hterm : p.term = term := by
    simpa using (List.mem_filter.1 (List.mem_filter.1 hp).1).2
  rw [← hterm]
  rfl

theorem map_term_termAfterMove {dest index i : Nat} (p : PlannedCourse) :
    (if i = dest then insertAt index p (plan.others p.id (i + 1))
        else plan.others p.id (i + 1)).map (fun q => { q with term := i + 1 })
      = plan.termAfterMove p (dest + 1) index (i + 1) := by
  unfold termAfterMove
  by_cases hi : i = dest
  · rw [if_pos hi, if_pos (congrArg (· + 1) hi), map_insertAt, map_term_others]
  · rw [if_neg hi, if_neg fun h => hi (Nat.succ.inj h), map_term_others]

/-- The plan after a move, term by term. -/
theorem move_eq {id dest index : Nat} (ht : plan.WellTimed) (hids : plan.Distinct)
    (h : plan.move id dest index = .ok next) :
    ∃ p ∈ plan.courses, p.id = id ∧ 1 ≤ dest ∧ dest ≤ plan.numTerms ∧
      next = { plan with courses :=
        (List.range plan.numTerms).flatMap fun i => plan.termAfterMove p dest index (i + 1) } := by
  obtain ⟨-, ⟨hpos, hle⟩, p, rest, htake, rfl⟩ := move_eq_ok_iff.1 h
  obtain ⟨dest, rfl⟩ : ∃ s, dest = s + 1 := ⟨dest - 1, by omega⟩
  have hperm := groups_perm ht.pos
  obtain ⟨hp, rfl, hrest⟩ := takeOut_eq htake ((hperm.map (·.id)).nodup_iff.2 hids.nodup)
  refine ⟨p, hperm.mem_iff.1 hp, rfl, hpos, hle, ?_⟩
  rw [hrest, groups_eq ht, List.map_map, Nat.add_sub_cancel, modify_map_range,
    ungroup_map_range]
  congr 1
  exact List.flatMap_congr fun i _ => map_term_termAfterMove p

/-! ## Which moves are refused -/

theorem exists_takeOut {id : Nat} : ∀ {groups : List (List PlannedCourse)},
    (∃ p ∈ groups.flatten, p.id = id) → ∃ taken, takeOut id groups = some taken
  | [], ⟨p, hp, _⟩ => nomatch hp
  | group :: groups, ⟨p, hp, hid⟩ => by
    unfold takeOut
    cases hfind : group.find? (·.id == id) with
    | some q => exact ⟨_, rfl⟩
    | none =>
      have hnot : p ∉ group := fun hmem => by
        simpa [hid] using List.find?_eq_none.1 hfind p hmem
      rw [List.flatten_cons, List.mem_append] at hp
      obtain ⟨taken, htaken⟩ := exists_takeOut ⟨p, hp.resolve_left hnot, hid⟩
      exact ⟨_, congrArg (Option.map _) htaken⟩

theorem get?_isNone_iff {id : Nat} :
    (plan.get? id).isNone = true ↔ ∀ p ∈ plan.courses, p.id ≠ id := by
  simp [get?]

/-- A planned course may be moved to any term of the plan. -/
theorem exists_move {p : PlannedCourse} {dest : Nat} (ht : plan.WellTimed)
    (hp : p ∈ plan.courses) (hdest : 1 ≤ dest ∧ dest ≤ plan.numTerms) (index : Nat) :
    ∃ next, plan.move p.id dest index = .ok next := by
  have hmem : p ∈ plan.groups.flatten := (groups_perm ht.pos).mem_iff.2 hp
  obtain ⟨⟨q, rest⟩, htaken⟩ := exists_takeOut ⟨p, hmem, rfl⟩
  exact ⟨_, move_eq_ok_iff.2 ⟨⟨p, hp, rfl⟩, hdest, q, rest, htaken, rfl⟩⟩

theorem move_unknown {id : Nat} (h : ∀ p ∈ plan.courses, p.id ≠ id) (dest index : Nat) :
    plan.move id dest index = .error (.notPlanned id) := by
  have hrun : (moveCourse id dest index).runOn plan = (.error (.notPlanned id), plan) := by
    rw [moveCourse_eq, if_pos (get?_isNone_iff.2 h)]
  exact changed_of_refused hrun

theorem move_outside {p : PlannedCourse} {dest : Nat} (hp : p ∈ plan.courses)
    (hdest : ¬ (1 ≤ dest ∧ dest ≤ plan.numTerms)) (index : Nat) :
    plan.move p.id dest index = .error (.noSuchTerm dest plan.numTerms) := by
  have hknown : ¬ (plan.get? p.id).isNone = true := fun hnone => get?_isNone_iff.1 hnone p hp rfl
  have hterm : dest = 0 ∨ plan.numTerms < dest := by omega
  have hrun : (moveCourse p.id dest index).runOn plan
      = (.error (.noSuchTerm dest plan.numTerms), plan) := by
    rw [moveCourse_eq, if_neg hknown, if_pos hterm]
  exact changed_of_refused hrun

/-! ## The whole of a move -/

theorem insertAt_eq_insertIdx (index : Nat) (p : PlannedCourse) (group : List PlannedCourse) :
    insertAt index p group = group.insertIdx (Min.min index group.length) p := by
  induction group generalizing index with
  | nil => simp [insertAt]
  | cons q group ih =>
    cases index with
    | zero => rfl
    | succ index =>
      have hmin : Min.min (index + 1) (group.length + 1) = Min.min index group.length + 1 := by
        omega
      rw [List.length_cons, hmin, List.insertIdx_succ_cons, ← ih]
      rfl

theorem termAfterMove_eq (plan : Plan) (p : PlannedCourse) (dest index term : Nat) :
    plan.termAfterMove p dest index term
      = if term = dest then
          (plan.others p.id term).insertIdx (Min.min index (plan.others p.id term).length)
            { p with term := dest }
        else plan.others p.id term := by
  unfold termAfterMove
  by_cases h : term = dest
  · subst h
    rw [if_pos rfl, if_pos rfl, insertAt_eq_insertIdx]
  · rw [if_neg h, if_neg h]

/-- A move is refused for an unknown number and then for a term outside the plan, and the
plan that it was made on is left as it is.  Else the plan is listed by term, each with its
other courses in their order, and the moved course is put at its place in its new term, or
at the end. -/
theorem move_exact (ht : plan.WellTimed) (hids : plan.Numbered) (id dest index : Nat) :
    ((∃ next, plan.move id dest index = .ok next) ↔
      (∃ p ∈ plan.courses, p.id = id) ∧ 1 ≤ dest ∧ dest ≤ plan.numTerms) ∧
    ((∀ p ∈ plan.courses, p.id ≠ id) → plan.move id dest index = .error (.notPlanned id)) ∧
    ((∃ p ∈ plan.courses, p.id = id) → ¬ (1 ≤ dest ∧ dest ≤ plan.numTerms) →
      plan.move id dest index = .error (.noSuchTerm dest plan.numTerms)) ∧
    (∀ next, plan.move id dest index = .ok next → ∃ p ∈ plan.courses, p.id = id ∧
      next = { plan with courses := next.courses } ∧
      next.courses = (List.range' 1 plan.numTerms).flatMap fun term =>
        if term = dest then
          (plan.others id term).insertIdx (Min.min index (plan.others id term).length)
            { p with term := dest }
        else plan.others id term) ∧
    (∀ e left, (moveCourse id dest index).runOn plan = (.error e, left) → left = plan) ∧
    ∀ (catalog : Catalog) (capacity : Nat), (∀ next, plan.move id dest index ≠ .ok next) →
      plan.respond ⟨.move id dest index, catalog, capacity⟩ = plan := by
  refine ⟨⟨?_, ?_⟩, fun h => move_unknown h dest index, ?_, ?_, ?_, ?_⟩
  · rintro ⟨next, h⟩
    obtain ⟨hknown, hdest, -⟩ := move_eq_ok_iff.1 h
    exact ⟨hknown, hdest⟩
  · rintro ⟨⟨p, hp, rfl⟩, hdest⟩
    exact exists_move ht hp hdest index
  · rintro ⟨p, hp, rfl⟩ hdest
    exact move_outside hp hdest index
  · intro next h
    obtain ⟨p, hp, rfl, -, -, rfl⟩ := move_eq ht hids.toDistinct h
    refine ⟨p, hp, rfl, rfl, ?_⟩
    rw [List.range'_eq_map_range, List.flatMap_map]
    exact List.flatMap_congr fun i _ => by rw [Nat.add_comm 1 i, termAfterMove_eq]
  · intro e left h
    exact moveCourse_refused h
  · intro catalog capacity hrefused
    exact respond_of_refused hrefused

/-- A plan of two years that is not listed by term: three courses of its second year stand
around the one of its first. -/
def scattered : Plan :=
  { Plan.empty "plan" "Plan" 8 with
    courses := [{ Timetable.sampleCourse 3 "MATH 200" "" with term := 5 },
      Timetable.sampleCourse 1 "MATH 100" "",
      { Timetable.sampleCourse 4 "MATH 201" "" with term := 5 },
      { Timetable.sampleCourse 2 "MATH 202" "" with term := 5 }]
    nextId := 5 }

/-- The first of the three is moved behind the others in its own term. -/
theorem move_exact_scattered :
    scattered.WellTimed ∧ scattered.Numbered ∧
    ∃ next, scattered.move 3 5 9 = .ok next ∧
      next.courses.map (fun p => (p.id, p.term)) = [(1, 1), (4, 5), (2, 5), (3, 5)] ∧
      ∃ p ∈ scattered.courses, p.id = 3 ∧ next = { scattered with courses := next.courses } ∧
        next.courses = (List.range' 1 scattered.numTerms).flatMap fun term =>
          if term = 5 then
            (scattered.others 3 term).insertIdx (Min.min 9 (scattered.others 3 term).length)
              { p with term := 5 }
          else scattered.others 3 term := by
  have ht : scattered.WellTimed := ⟨by decide, by decide, by decide⟩
  have hids : scattered.Numbered := ⟨⟨by decide, by decide⟩, by decide⟩
  obtain ⟨next, h⟩ := (move_exact ht hids 3 5 9).1.2 ⟨⟨_, List.mem_cons_self .., rfl⟩, by decide⟩
  have hcourses : next.courses.map (fun p => (p.id, p.term)) = [(1, 1), (4, 5), (2, 5), (3, 5)] := by
    cases h
    decide
  exact ⟨ht, hids, next, h, hcourses, (move_exact ht hids 3 5 9).2.2.2.1 next h⟩

end Plan

end StudyPlan
