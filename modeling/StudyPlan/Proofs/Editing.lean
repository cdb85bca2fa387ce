import StudyPlan.Proofs.Lookup
import StudyPlan.Proofs.Retiming
import StudyPlan.Proofs.Vacancy

/-!
# What an edit does

There are seven edits, but only two things that an edit does to a plan (`Change`).
It *retimes* the courses: they get other terms or another order, and the plan may get
another number of years or another title.  Or it *shows* another course in one
elective slot, and nothing else is touched.  `apply_change` says so of every edit that
is not refused.  What a plan has after any number of edits is therefore shown by two
cases (`respondAll_induct`).  It makes no difference that an edit is made on a copy
(`runOn_change`).  When an edit is not refused, and what the plan is then, is said
once for each that can be refused (`substitute_eq_ok_iff`, `reset_eq_ok_iff`,
`move_eq_ok_iff`, `removeYear_eq_ok_iff`).

Moving a course is the one edit that takes the list apart.  The groups of a plan are
its courses sorted by term (`groups_perm`), a course is taken out of one group and put
into another (`takeOut_perm`, `modify_insertAt_perm`), and the groups are listed one
after another.
-/

namespace StudyPlan

/-! ## Lists in groups -/

/-- The elements of a list sorted by a number. -/
theorem flatten_filter_range {α : Type} (f : α → Nat) (l : List α) : ∀ n : Nat,
    ((List.range n).map fun i => l.filter (f · == i + 1)).flatten.Perm
      (l.filter fun a => decide (1 ≤ f a) && decide (f a ≤ n))
  | 0 => by
    have hnone : (l.filter fun a => decide (1 ≤ f a) && decide (f a ≤ 0)) = [] := by
      simp only [List.filter_eq_nil_iff, Bool.and_eq_true, decide_eq_true_eq]
      omega
    rw [hnone]
    exact .refl _
  | n + 1 => by
    have hlow : (l.filter fun a => decide (1 ≤ f a) && decide (f a ≤ n + 1)).filter
        (fun a => decide (f a ≤ n)) = l.filter fun a => decide (1 ≤ f a) && decide (f a ≤ n) := by
      rw [List.filter_filter]
      refine List.filter_congr fun a _ => ?_
      rw [Bool.eq_iff_iff]
      simp only [Bool.and_eq_true, decide_eq_true_eq]
      omega
    have hhigh : (l.filter fun a => decide (1 ≤ f a) && decide (f a ≤ n + 1)).filter
        (fun a => !decide (f a ≤ n)) = l.filter (f · == n + 1) := by
      rw [List.filter_filter]
      refine List.filter_congr fun a _ => ?_
      rw [Bool.eq_iff_iff]
      simp only [Bool.and_eq_true, Bool.not_eq_true', decide_eq_true_eq, decide_eq_false_iff_not,
        beq_iff_eq]
      omega
    have hsplit := List.filter_append_perm (fun a => decide (f a ≤ n))
      (l.filter fun a => decide (1 ≤ f a) && decide (f a ≤ n + 1))
    rw [hlow, hhigh] at hsplit
    rw [List.range_succ, List.map_append, List.flatten_append, List.map_singleton,
      List.flatten_singleton]
    exact ((flatten_filter_range f l n).append_right _).trans hsplit

namespace Plan

variable {plan next : Plan}

/-- What an edit does: it gives courses other terms, or it shows another course in an
elective slot. -/
inductive Change (catalog : Catalog) (plan : Plan) : Plan → Prop
  /-- The courses are in other terms, in any order. -/
  | retimed {next : Plan} (courses : Retimed plan.courses next.courses)
      (nextId : next.nextId = plan.nextId) : Change catalog plan next
  /-- A slot shows a course of the catalogue that no other planned course shows. -/
  | filled {before after : List PlannedCourse} {slot : PlannedCourse} {course : Course}
      (split : plan.courses = before ++ slot :: after) (elective : slot.isElective = true)
      (known : course ∈ catalog.courses) (new : ∀ p ∈ before ++ after, p.code ≠ course.code) :
      Change catalog plan { plan with courses := before ++ { slot with course } :: after }
  /-- A slot shows the placeholder that it started with. -/
  | emptied {before after : List PlannedCourse} {slot : PlannedCourse} {course : Course}
      (split : plan.courses = before ++ slot :: after) (elective : slot.isElective = true)
      (placeholder : slot.placeholder = some course) :
      Change catalog plan { plan with courses := before ++ { slot with course } :: after }

variable {catalog : Catalog}

theorem code_ne_of_not_holdsCode {code : String} {id : Nat}
    (h : plan.holdsCode code (some id) = false) :
    ∀ p ∈ plan.courses, p.id ≠ id → p.code ≠ code := by
  intro p hp hid hcode
  have hnot := List.any_eq_false.1 h p hp
  simp [hid, hcode] at hnot

theorem substitute_eq_ok_iff {id : Nat} {course : Course} :
    plan.substitute id course = .ok next ↔
      ∃ slot, plan.get? id = some slot ∧ slot.isElective = true ∧
        plan.holdsCode course.code (some id) = false ∧
          next = plan.update id fun p => { p with course } := by
  rw [substitute, changed_eq_ok_iff, substituteCourse_eq]
  cases hget : plan.get? id with
  | none => simp
  | some slot =>
    cases helective : slot.isElective with
    | false => simp [helective]
    | true =>
      cases hheld : plan.holdsCode course.code (some id) with
      | true => simp [helective]
      | false =>
        simp only [helective, Option.some.injEq, exists_eq_left', Prod.mk.injEq, true_and,
          Bool.not_true, Bool.false_eq_true, if_false]
        exact eq_comm

theorem reset_eq_ok_iff {id : Nat} :
    plan.reset id = .ok next ↔
      ∃ slot course, plan.get? id = some slot ∧ slot.isElective = true ∧
        slot.placeholder = some course ∧ next = plan.update id fun p => { p with course } := by
  rw [reset, changed_eq_ok_iff, resetCourse_eq]
  cases hget : plan.get? id with
  | none => simp
  | some slot =>
    cases hplaceholder : slot.placeholder with
    | none => simp [hplaceholder]
    | some course =>
      cases helective : slot.isElective with
      | false => simp [helective]
      | true =>
        simp only [helective, hplaceholder, Option.some.injEq, exists_eq_left', exists_and_left,
          Prod.mk.injEq, true_and]
        exact eq_comm

theorem substitute_change {id : Nat} {course : Course} (hids : plan.Distinct)
    (hknown : course ∈ catalog.courses) (h : plan.substitute id course = .ok next) :
    Change catalog plan next := by
  obtain ⟨slot, hget, helective, hfree, rfl⟩ := substitute_eq_ok_iff.1 h
  obtain ⟨rfl, before, after, hsplit, hupdate⟩ := updateFirst_split hget
  rw [update, hupdate]
  refine .filled hsplit helective hknown fun p hp => ?_
  refine code_ne_of_not_holdsCode hfree p ?_ (hids.id_ne hsplit p hp)
  rw [hsplit]
  exact List.perm_middle.mem_iff.2 (List.mem_cons_of_mem _ hp)

theorem reset_change {id : Nat} (h : plan.reset id = .ok next) : Change catalog plan next := by
  obtain ⟨slot, course, hget, helective, hplaceholder, rfl⟩ := reset_eq_ok_iff.1 h
  obtain ⟨rfl, before, after, hsplit, hupdate⟩ := updateFirst_split hget
  rw [update, hupdate]
  exact .emptied hsplit helective hplaceholder

/-! ## Moving -/

theorem groups_perm (h : 0 < plan.numTerms) : plan.groups.flatten.Perm plan.courses := by
  have hall : (plan.courses.filter fun p =>
      decide (1 ≤ plan.groupOf p) && decide (plan.groupOf p ≤ plan.numTerms)) = plan.courses := by
    refine List.filter_eq_self.2 fun p _ => ?_
    have hgroup : 1 ≤ plan.groupOf p ∧ plan.groupOf p ≤ plan.numTerms := by
      unfold groupOf
      omega
    rw [decide_eq_true hgroup.1, decide_eq_true hgroup.2]
    rfl
  have hperm := flatten_filter_range plan.groupOf plan.courses plan.numTerms
  rwa [hall] at hperm

theorem takeOut_perm {id : Nat} {p : PlannedCourse} :
    ∀ {groups rest : List (List PlannedCourse)}, takeOut id groups = some (p, rest) →
      groups.flatten.Perm (p :: rest.flatten) ∧ rest.length = groups.length
  | [], _, h => by cases h
  | group :: groups, rest, h => by
    unfold takeOut at h
    cases hfind : group.find? (·.id == id) with
    | some q =>
      simp only [hfind, Option.some.injEq, Prod.mk.injEq] at h
      obtain ⟨rfl, rfl⟩ := h
      have hgroup : group.Perm (q :: group.eraseP (·.id == id)) := by
        obtain ⟨hq, before, after, rfl, hbefore⟩ := List.find?_eq_some_iff_append.1 hfind
        rw [List.eraseP_append_right _ (by simpa using hbefore), List.eraseP_cons, hq]
        exact List.perm_middle
      exact ⟨hgroup.append_right groups.flatten, rfl⟩
    | none =>
      simp only [hfind, Option.map_eq_some_iff, Prod.mk.injEq, Prod.exists] at h
      obtain ⟨q, rest', hrest, rfl, rfl⟩ := h
      obtain ⟨hperm, hlen⟩ := takeOut_perm hrest
      exact ⟨(hperm.append_left group).trans List.perm_middle, congrArg (· + 1) hlen⟩

theorem modify_insertAt_perm (index : Nat) (p : PlannedCourse) :
    ∀ {groups : List (List PlannedCourse)} {i : Nat}, i < groups.length →
      (groups.modify i (insertAt index p)).flatten.Perm (p :: groups.flatten)
  | [], _, h => by cases h
  | group :: groups, 0, _ => by
    have hgroup : (insertAt index p group).Perm (p :: group) := by
      have hmiddle : (insertAt index p group).Perm (p :: (group.take index ++ group.drop index)) :=
        List.perm_middle
      rwa [List.take_append_drop] at hmiddle
    exact hgroup.append_right groups.flatten
  | group :: groups, i + 1, h =>
    ((modify_insertAt_perm index p (Nat.lt_of_succ_lt_succ h)).append_left group).trans
      List.perm_middle

theorem map_untimed_ungroup (groups : List (List PlannedCourse)) :
    (ungroup groups).map PlannedCourse.untimed = groups.flatten.map PlannedCourse.untimed := by
  have hfrom : ∀ n : Nat,
      ((groups.zipIdx n).flatMap fun group =>
          group.1.map fun p => { p with term := group.2 + 1 }).map PlannedCourse.untimed
        = groups.flatten.map PlannedCourse.untimed := by
    induction groups with
    | nil => exact fun _ => rfl
    | cons group rest ih =>
      intro n
      rw [List.zipIdx_cons, List.flatMap_cons, List.map_append, ih, List.flatten_cons,
        List.map_append, List.map_map]
      rfl
  exact hfrom 0

theorem ungroup_within {groups : List (List PlannedCourse)} :
    ∀ p ∈ ungroup groups, 1 ≤ p.term ∧ p.term ≤ groups.length := by
  intro p hp
  obtain ⟨⟨group, i⟩, hgroup, hp⟩ := List.mem_flatMap.1 hp
  obtain ⟨q, -, rfl⟩ := List.mem_map.1 hp
  have hi : i < groups.length := (List.mem_zipIdx' hgroup).1
  exact ⟨Nat.succ_pos i, hi⟩

theorem move_eq_ok_iff {id dest index : Nat} :
    plan.move id dest index = .ok next ↔
      (∃ p ∈ plan.courses, p.id = id) ∧ (1 ≤ dest ∧ dest ≤ plan.numTerms) ∧
        ∃ p rest, takeOut id plan.groups = some (p, rest) ∧
          next = { plan with courses := ungroup (rest.modify (dest - 1) (insertAt index p)) } := by
  have hknown : (plan.get? id).isNone = false ↔ ∃ p ∈ plan.courses, p.id = id := by
    simp [get?]
  have hterm : ¬ (dest = 0 ∨ plan.numTerms < dest) ↔ 1 ≤ dest ∧ dest ≤ plan.numTerms := by
    omega
  rw [move, changed_eq_ok_iff, moveCourse_eq, ← hknown, ← hterm]
  cases hget : (plan.get? id).isNone with
  | true => simp
  | false =>
    by_cases hout : dest = 0 ∨ plan.numTerms < dest
    · simp [hout]
    · cases htake : takeOut id plan.groups with
      | none => simp [hout]
      | some taken =>
        obtain ⟨p, rest⟩ := taken
        simp only [hout, Bool.false_eq_true, if_false, not_false_eq_true, true_and,
          Option.some.injEq, Prod.mk.injEq, exists_and_left, and_assoc,
          exists_eq_left']
        exact eq_comm

/-- The groups after a move have the planned courses, each group in its term. -/
theorem move_retimes {id dest index : Nat} (h : plan.move id dest index = .ok next) :
    Retimed plan.courses next.courses ∧ next.numTerms = plan.numTerms ∧
      next.nextId = plan.nextId ∧ ∀ p ∈ next.courses, 1 ≤ p.term ∧ p.term ≤ plan.numTerms := by
  obtain ⟨-, hdest, p, rest, htake, rfl⟩ := move_eq_ok_iff.1 h
  obtain ⟨hperm, hlen⟩ := takeOut_perm htake
  have hgroups : rest.length = plan.numTerms :=
    hlen.trans (by simp [groups])
  -- A plan with a term to move to has groups for all of its courses.
  have hflat : plan.courses.Perm (rest.modify (dest - 1) (insertAt index p)).flatten :=
    ((groups_perm (by omega)).symm.trans hperm).trans
      (modify_insertAt_perm index p (by omega)).symm
  refine ⟨?_, rfl, rfl, fun q hq => ?_⟩
  · unfold Retimed
    rw [map_untimed_ungroup]
    exact hflat.map _
  · have hwithin := ungroup_within q hq
    rwa [List.length_modify, hgroups] at hwithin

/-! ## All edits -/

theorem apply_substitute (plan : Plan) (capacity id : Nat) (code : String) :
    plan.apply catalog capacity (.substitute id code) =
      match catalog.get? code with
      | none => .error (.unknownCourse code)
      | some course => plan.substitute id course := by
  cases hget : catalog.get? code with
  | none =>
    simp only [apply, change, hget]
    rfl
  | some course =>
    simp only [apply, change, hget]
    rfl

theorem apply_substitute_eq_ok_iff {capacity id : Nat} {code : String} :
    plan.apply catalog capacity (.substitute id code) = .ok next ↔
      ∃ course, catalog.get? code = some course ∧ plan.substitute id course = .ok next := by
  rw [apply_substitute]
  cases catalog.get? code with
  | none => simp
  | some course => simp

/-- An edit that is not refused retimes the courses or shows another course in a slot. -/
theorem apply_change {capacity : Nat} {edit : Edit} (hids : plan.Distinct)
    (h : plan.apply catalog capacity edit = .ok next) : Change catalog plan next := by
  cases edit with
  | move id term index =>
    have hmoved := move_retimes h
    exact .retimed hmoved.1 hmoved.2.2.1
  | substitute id code =>
    obtain ⟨course, hget, h⟩ := apply_substitute_eq_ok_iff.1 h
    exact substitute_change hids (Catalog.mem_of_get? hget) h
  | reset id => exact reset_change h
  | addYear =>
    cases h
    exact .retimed (.of_eq rfl) rfl
  | removeYear year =>
    obtain ⟨-, rfl⟩ := removeYear_eq_ok_iff.1 h
    refine .retimed (.of_eq ?_) rfl
    rw [withoutYear, List.map_map]
    rfl
  | rename title =>
    cases h
    exact .retimed (.of_eq rfl) rfl
  | enforceOrder =>
    cases h
    exact .retimed (Timetable.enforce_retimed ..) rfl

/-- The plan after a course is shown in a slot has the same numbers. -/
theorem ids_shown {before after : List PlannedCourse} {slot : PlannedCourse} (course : Course) :
    (before ++ slot :: after).map (·.id)
      = (before ++ { slot with course } :: after).map (·.id) := by
  simp

theorem Change.ids_perm (h : Change catalog plan next) :
    (plan.courses.map (·.id)).Perm (next.courses.map (·.id)) := by
  cases h with
  | retimed courses _ => exact courses.map fun _ => rfl
  | filled split _ _ _ =>
    rw [split]
    exact .of_eq (ids_shown _)
  | emptied split _ _ =>
    rw [split]
    exact .of_eq (ids_shown _)

theorem Change.nextId_eq (h : Change catalog plan next) : next.nextId = plan.nextId := by
  cases h with
  | retimed _ nextId => exact nextId
  | filled _ _ _ _ => rfl
  | emptied _ _ _ => rfl

theorem Change.distinct (h : Change catalog plan next) (hids : plan.Distinct) : next.Distinct :=
  hids.of_perm h.ids_perm

theorem Change.counted (h : Change catalog plan next) (hids : plan.Counted) : next.Counted :=
  hids.of_perm h.ids_perm h.nextId_eq

/-- What is shown of each planned course. -/
theorem Change.forall_mem {P : PlannedCourse → Prop} (h : Change catalog plan next)
    (hplan : ∀ p ∈ plan.courses, P p) (untimed : ∀ p, P p.untimed ↔ P p)
    (filled : ∀ slot course, course ∈ catalog.courses → P slot → P { slot with course })
    (emptied : ∀ slot course, slot.placeholder = some course → P slot → P { slot with course }) :
    ∀ p ∈ next.courses, P p := by
  cases h with
  | retimed courses _ => exact courses.forall_mem untimed hplan
  | filled split _ known _ =>
    rw [split] at hplan
    exact forall_mem_replace hplan (filled _ _ known)
  | emptied split _ placeholder =>
    rw [split] at hplan
    exact forall_mem_replace hplan (emptied _ _ placeholder)

end Plan

/-! ## Runs -/

/-- A request to edit a plan. -/
structure EditRequest where
  /-- The edit. -/
  edit : Edit
  /-- The catalogue in which codes are looked up. -/
  catalog : Catalog
  /-- How many courses a term has room for. -/
  capacity : Nat

namespace Plan

/-- The plan after a request.  An edit that is refused leaves it as it is. -/
def respond (plan : Plan) (r : EditRequest) : Plan :=
  match plan.apply r.catalog r.capacity r.edit with
  | .ok next => next
  | .error _ => plan

/-- The plan after some requests, one after another. -/
def respondAll (plan : Plan) (rs : List EditRequest) : Plan := rs.foldl respond plan

variable {plan : Plan}

/-- A request that is refused leaves the plan as it is. -/
theorem respond_of_refused {r : EditRequest}
    (h : ∀ next, plan.apply r.catalog r.capacity r.edit ≠ .ok next) : plan.respond r = plan := by
  unfold respond
  cases happly : plan.apply r.catalog r.capacity r.edit with
  | ok next => exact absurd happly (h next)
  | error _ => rfl

/-- A request does to the plan what its edit does in place: a copy is not needed. -/
theorem runOn_change (plan : Plan) (r : EditRequest) :
    ((change r.catalog r.capacity r.edit).runOn plan).2 = plan.respond r := by
  unfold respond apply changed
  cases h : (change r.catalog r.capacity r.edit).runOn plan with
  | mk result left =>
    cases result with
    | ok u => rfl
    | error e => exact change_refused h

theorem respond_change (hids : plan.Distinct) (r : EditRequest) :
    plan.respond r = plan ∨ Change r.catalog plan (plan.respond r) := by
  unfold respond
  cases h : plan.apply r.catalog r.capacity r.edit with
  | ok next => exact Or.inr (apply_change hids h)
  | error _ => exact Or.inl rfl

/-- What changes keep, every run of requests keeps. -/
theorem respondAll_induct {P : Plan → Prop} (hids : plan.Distinct) (start : P plan)
    (rs : List EditRequest)
    (step : ∀ r ∈ rs, ∀ plan next, plan.Distinct → P plan → Change r.catalog plan next → P next) :
    (plan.respondAll rs).Distinct ∧ P (plan.respondAll rs) := by
  refine List.foldlRecOn rs respond (motive := fun plan => plan.Distinct ∧ P plan)
    ⟨hids, start⟩ ?_
  rintro plan ⟨hids, h⟩ r hr
  cases respond_change hids r with
  | inl hsame => exact hsame.symm ▸ ⟨hids, h⟩
  | inr hchange => exact ⟨hchange.distinct hids, step r hr _ _ hids h hchange⟩

end Plan

end StudyPlan
