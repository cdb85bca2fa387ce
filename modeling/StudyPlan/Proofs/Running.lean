import StudyPlan.Plan.Record
import StudyPlan.Proofs.Drafting
import StudyPlan.Proofs.Timing

/-!
# Plans over their whole life

A plan begins as a draft, or it is made of a record (`Plan.Begun`).  Then it is edited,
one request after another, and a request that is refused changes nothing.

A record is read one planned course at a time, and each is pushed only if its number is
free and its term is a term of the plan (`Accepted`).  So a plan that is read is numbered
and well timed as a drafted one is, if the terms and the numbers fit in their words
(`Begun.counted`, `Begun.wellTimed`).  No edit changes the numbers, and none loses or makes a
planned course (`respondAll_ids`).  The plan stays well timed as long as the years that are
added fit (`Begun.respondAll_sound`).
-/

namespace StudyPlan

namespace Plan

variable {catalog : Catalog} {plan mid : Plan} {r : PlannedCourseRecord} {p : PlannedCourse}
  {numTerms : Nat} {taken : List Nat}

theorem bind_eq_ok {ε α β : Type} {x : Except ε α} {f : α → Except ε β} {b : β}
    (h : x >>= f = .ok b) : ∃ a, x = .ok a ∧ f a = .ok b := by
  cases x with
  | error e => cases h
  | ok a => exact ⟨a, rfl, h⟩

/-! ## Records -/

/-- A record is accepted as a planned course of a plan in which some numbers are taken. -/
structure Accepted (catalog : Catalog) (numTerms : Nat) (taken : List Nat)
    (r : PlannedCourseRecord) (p : PlannedCourse) : Prop where
  id_eq : p.id = r.id
  id_pos : 0 < r.id
  free : r.id ∉ taken
  within : 1 ≤ p.term ∧ p.term ≤ numTerms
  course : lookUp catalog r.courseId = .ok p.course
  placeholder : lookUpOptional catalog r.placeholderId = .ok p.placeholder
  pool : lookUpAll catalog r.poolIds = .ok p.pool
  kept : p = ⟨r.id, r.term, p.course, r.requirementId, r.isElective, r.electiveKind,
    p.placeholder, p.pool, r.sharedRequirementId⟩

theorem accepted_of_ok (h : coursePlannedBy catalog numTerms taken r = .ok p) :
    Accepted catalog numTerms taken r p := by
  unfold coursePlannedBy at h
  by_cases hid : r.id = 0 ∨ taken.contains r.id = true
  · rw [if_pos hid] at h
    cases h
  rw [if_neg hid] at h
  by_cases hterm : r.term = 0 ∨ numTerms < r.term
  · rw [if_pos hterm] at h
    cases h
  rw [if_neg hterm] at h
  obtain ⟨course, hcourse, h⟩ := bind_eq_ok h
  obtain ⟨placeholder, hplaceholder, h⟩ := bind_eq_ok h
  obtain ⟨pool, hpool, h⟩ := bind_eq_ok h
  obtain rfl := Except.ok.inj h
  exact {
    id_eq := rfl
    id_pos := Nat.pos_of_ne_zero fun hzero => hid (Or.inl hzero)
    free := fun hmem => hid (Or.inr (List.contains_iff_mem.2 hmem))
    within := by simp only; omega
    course := hcourse
    placeholder := hplaceholder
    pool := hpool
    kept := rfl }

theorem Accepted.ok (h : Accepted catalog numTerms taken r p) :
    coursePlannedBy catalog numTerms taken r = .ok p := by
  have hid : ¬ (r.id = 0 ∨ taken.contains r.id = true) := by
    rw [List.contains_iff_mem]
    exact not_or.2 ⟨Nat.ne_of_gt h.id_pos, h.free⟩
  have hterm : p.term = r.term := congrArg PlannedCourse.term h.kept
  have hwithin : ¬ (r.term = 0 ∨ numTerms < r.term) := by
    have hterms := h.within
    omega
  rw [coursePlannedBy, if_neg hid, if_neg hwithin, h.course, h.placeholder, h.pool]
  exact congrArg Except.ok h.kept.symm

theorem WellTimed.push (h : plan.WellTimed) (hp : 1 ≤ p.term ∧ p.term ≤ plan.numTerms) :
    (plan.push p).WellTimed :=
  ⟨h.pos, h.years, forall_mem_push h.within hp⟩

theorem pushRecords_induct {P : Plan → Prop} {rs : List PlannedCourseRecord}
    (step : ∀ {mid taken r p}, r ∈ rs → P mid → Accepted catalog numTerms taken r p →
      (∀ q ∈ mid.courses, q.id ≠ p.id) → P (mid.push p)) :
    ∀ {taken : List Nat} {mid : Plan}, pushRecords catalog numTerms taken mid rs = .ok plan →
      (∀ q ∈ mid.courses, q.id ∈ taken) → P mid → P plan := by
  induction rs with
  | nil =>
    intro _ mid h _ hmid
    obtain rfl := Except.ok.inj h
    exact hmid
  | cons r rs ih =>
    intro taken mid h htaken hmid
    obtain ⟨p, hp, h⟩ := bind_eq_ok h
    have hp := accepted_of_ok hp
    -- The numbers that are taken are at least those of the courses so far.
    have hnew : ∀ q ∈ mid.courses, q.id ≠ p.id := fun q hq hid =>
      hp.free (hp.id_eq ▸ hid ▸ htaken q hq)
    have hid : mid.idFor p = r.id := (idFor_eq (hp.id_eq.symm ▸ hp.id_pos)).trans hp.id_eq
    refine ih (fun hr => step (List.mem_cons_of_mem _ hr)) h ?_
      (step (List.mem_cons_self ..) hmid hp hnew)
    exact forall_mem_push (fun q hq => List.mem_cons_of_mem _ (htaken q hq))
      (List.mem_cons.2 (Or.inl hid))

/-- What the plan without courses has, and each accepted record keeps, a plan made of a
record has. -/
theorem ofRecord_induct {P : Plan → Prop} {record : PlanRecord}
    (start : ∀ {plan : Plan}, plan.courses = [] → plan.nextId = 1 →
      plan.numTerms = Term.roundUp record.numTerms → P plan)
    (step : ∀ {mid taken r p}, r ∈ record.courses → P mid →
      Accepted catalog record.numTerms taken r p → (∀ q ∈ mid.courses, q.id ≠ p.id) →
        P (mid.push p))
    (h : ofRecord catalog record = .ok plan) : P plan := by
  unfold ofRecord at h
  split at h
  · cases h
  next => exact pushRecords_induct step h (fun _ hq => nomatch hq) (start rfl rfl rfl)

/-- A plan that is read has the terms of its record. -/
theorem ofRecord_wellTimed {record : PlanRecord} (hsize : record.numTerms < UInt32.size)
    (h : ofRecord catalog record = .ok plan) :
    plan.WellTimed ∧ plan.numTerms = record.numTerms := by
  have hyears : 0 < record.numTerms ∧ record.numTerms % termsPerYear = 0 := by
    unfold ofRecord at h
    split at h
    · cases h
    next hyears => omega
  have hterms := Term.roundUp_eq_self hyears.1 hyears.2 hsize
  refine ofRecord_induct (P := fun plan => plan.WellTimed ∧ plan.numTerms = record.numTerms)
    ?_ ?_ h
  · intro plan hnil _ hplan
    rw [hterms] at hplan
    refine ⟨⟨hplan ▸ hyears.1, hplan ▸ hyears.2, fun p hp => ?_⟩, hplan⟩
    rw [hnil] at hp
    cases hp
  · rintro mid taken r p - ⟨ht, hmid⟩ hp -
    exact ⟨ht.push (hmid.symm ▸ hp.within), hmid⟩

/-- A plan that is read has the numbers of its record, and the next one is after them. -/
theorem ofRecord_counted {record : PlanRecord}
    (hfits : ∀ r ∈ record.courses, r.id + 1 < UInt64.size)
    (h : ofRecord catalog record = .ok plan) : plan.Counted ∧ plan.nextId < UInt64.size := by
  refine ofRecord_induct (P := fun plan => plan.Counted ∧ plan.nextId < UInt64.size) ?_ ?_ h
  · intro plan hnil hnext _
    exact ⟨⟨⟨distinct_of_nil hnil, by simp [hnil]⟩, .inl hnext⟩, hnext ▸ by decide⟩
  · rintro mid taken r p hr ⟨hids, hnext⟩ hp hnew
    have hid : p.id + 1 < UInt64.size := hp.id_eq.symm ▸ hfits r hr
    have hpos : 0 < p.id := hp.id_eq.symm ▸ hp.id_pos
    refine ⟨hids.push (.inr hnew) hid, ?_⟩
    show mid.nextIdAfter p < UInt64.size
    rw [nextIdAfter_eq hid, idFor_eq hpos]
    exact Nat.max_lt.2 ⟨hnext, hid⟩

/-! ## Runs -/

/-- How a plan begins.  Its terms and its numbers fit in their words. -/
inductive Begun (catalog : Catalog) : Plan → Prop
  /-- It is drafted. -/
  | drafted {settings : Settings} {time title : String} {userId : Option String}
      {programs : List Program} {source : Chance.Source}
      (terms : Term.Fits settings.defaultTerms)
      (ids : (draft catalog settings time title userId programs source).plan.courses.length
        + 1 < UInt64.size) :
      Begun catalog (draft catalog settings time title userId programs source).plan
  /-- It is made of a record. -/
  | recorded {r : PlanRecord} {plan : Plan} (terms : r.numTerms < UInt32.size)
      (ids : ∀ c ∈ r.courses, c.id + 1 < UInt64.size) (accepted : ofRecord catalog r = .ok plan) :
      Begun catalog plan

theorem Begun.wellTimed (h : Begun catalog plan) : plan.WellTimed := by
  cases h with
  | drafted terms _ => exact draft_wellTimed catalog terms ..
  | recorded terms _ accepted => exact (ofRecord_wellTimed terms accepted).1

theorem Begun.counted (h : Begun catalog plan) : plan.Counted ∧ plan.nextId < UInt64.size := by
  cases h with
  | @drafted settings time title userId programs source _ ids =>
    rw [← (draft_counts catalog settings time title userId programs source).2] at ids
    have hids := (draft_induct catalog (P := fun _ _ => True) (fun _ => trivial)
      (fun _ _ _ => trivial) (fun _ _ => trivial) settings time title userId programs source).1
    exact ⟨hids, ids⟩
  | recorded _ ids accepted => exact ofRecord_counted ids accepted

theorem Begun.numTerms_lt (h : Begun catalog plan) : plan.numTerms < UInt32.size := by
  cases h with
  | @drafted settings time title userId programs source _ _ =>
    rw [(draft_counts catalog settings time title userId programs source).1]
    exact Term.roundUp_lt _
  | recorded terms _ accepted => exact (ofRecord_wellTimed terms accepted).2 ▸ terms

/-- No run of requests loses or makes a planned course, or gives out a number. -/
theorem respondAll_ids (hids : plan.Distinct) (rs : List EditRequest) :
    (plan.respondAll rs).nextId = plan.nextId ∧
      (plan.courses.map (·.id)).Perm ((plan.respondAll rs).courses.map (·.id)) :=
  (respondAll_induct (P := fun next : Plan => next.nextId = plan.nextId ∧
      (plan.courses.map PlannedCourse.id).Perm (next.courses.map PlannedCourse.id))
    hids ⟨rfl, .refl _⟩ rs fun _ _ _ _ _ hkept hchange =>
      ⟨hchange.nextId_eq.trans hkept.1, hkept.2.trans hchange.ids_perm⟩).2

/-- Any run of requests leaves a plan numbered, with the planned courses that it began with,
and every plan of the run is well timed if there is room for the years that are added. -/
theorem Begun.respondAll_sound (h : Begun catalog plan) (rs : List EditRequest) :
    (plan.respondAll rs).Numbered ∧
    (plan.courses.map (·.id)).Perm ((plan.respondAll rs).courses.map (·.id)) ∧
    (plan.RoomFor rs ↔ ∀ done, done <+: rs → (plan.respondAll done).WellTimed) := by
  obtain ⟨hcounted, -⟩ := h.counted
  obtain ⟨hnext, hperm⟩ := respondAll_ids hcounted.toDistinct rs
  exact ⟨hcounted.toNumbered.of_perm hperm hnext, hperm, roomFor_iff h.wellTimed h.numTerms_lt⟩

/-- Requests to fill both slots of the sketch, to move one of them and to add and take out
years.  A course that is planned, a year in use and a course that is unknown are refused. -/
def sketchRequests : List EditRequest :=
  [.substitute 2 "data 301", .substitute 3 "DATA 301", .move 3 5 0, .removeYear 1, .removeYear 2,
    .substitute 1 "PHIL 120", .removeYear 1, .substitute 3 "HIST 100", .substitute 3 "math100",
    .addYear, .move 1 20 7, .removeYear 1, .enforceOrder].map (⟨·, .ofCourses shelf, 5⟩)

theorem respondAll_sound_sketch :
    Begun (.ofCourses shelf) sketch ∧ sketch.RoomFor sketchRequests ∧
    (sketch.respondAll sketchRequests).courses.map (fun p => (p.id, p.term, p.code))
      = [(3, 1, "ELEC"), (2, 5, "DATA 301"), (1, 16, "MATH 100")] ∧
    (sketch.respondAll sketchRequests).WellTimed ∧ (sketch.respondAll sketchRequests).Numbered ∧
    (sketch.courses.map (·.id)).Perm
      ((sketch.respondAll sketchRequests).courses.map (·.id)) := by
  have hbegun : Begun (.ofCourses shelf) sketch := .drafted (by decide) (by decide +kernel)
  have hroom : sketch.RoomFor sketchRequests := by decide +kernel
  obtain ⟨hids, hperm, hiff⟩ := hbegun.respondAll_sound sketchRequests
  exact ⟨hbegun, hroom, by decide +kernel, hiff.1 hroom _ (List.prefix_refl _), hids, hperm⟩

end Plan

end StudyPlan
