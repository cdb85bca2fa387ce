import StudyPlan.Proofs.Rows

/-!
# Saving and deleting

A save changes the tables step by step: the row of the plan is put, the old rows of its
planned courses are taken out, and the new ones are added one by one.  Each is compared with
all that are there.  All of them are added if their keys are different and new, and
otherwise one is refused (`forM_addCourse`).

A record with different numbers therefore takes the place of the one of its name
(`saveRecord_accepted`).  One with a repeated number is refused halfway, and what was changed
before that is undone (`saveRecord_refused`).
-/

namespace StudyPlan

/-- What no two rows of planned courses have in common. -/
def StoredCourse.key (c : StoredCourse) : String × Int := (c.planId, c.id)

namespace Archive

/-! ## Changes one after another -/

/-- The second change is made of what the first has left, unless that was refused. -/
theorem bind_apply {α β : Type} (first : Changes α) (next : α → Changes β) (a : Archive) :
    (first >>= next) a = match first a with
      | (.ok x, changed) => next x changed
      | (.error e, changed) => (.error e, changed) := by
  show (match first a with | (x, changed) => ExceptT.bindCont next x changed) = _
  rcases first a with ⟨x, changed⟩
  cases x with
  | ok x => rfl
  | error e => rfl

/-- The keys of some rows are different ones, and no row that is there has one of them. -/
structure Fits (there cs : List StoredCourse) : Prop where
  new : ∀ c ∈ cs, ∀ o ∈ there, o.key ≠ c.key
  nodup : (cs.map (·.key)).Nodup

theorem fits_cons {there cs : List StoredCourse} {c : StoredCourse} :
    Fits there (c :: cs) ↔ (∀ o ∈ there, o.key ≠ c.key) ∧ Fits (there ++ [c]) cs := by
  constructor
  · rintro ⟨hnew, hnodup⟩
    rw [List.map_cons, List.nodup_cons] at hnodup
    refine ⟨hnew c (List.mem_cons_self ..), fun d hd o ho => ?_, hnodup.2⟩
    rcases List.mem_append.1 ho with hold | hlast
    · exact hnew d (List.mem_cons_of_mem _ hd) o hold
    · rw [List.mem_singleton.1 hlast]
      exact fun heq => hnodup.1 (List.mem_map.2 ⟨d, hd, heq.symm⟩)
  · rintro ⟨hc, hnew, hnodup⟩
    constructor
    · intro d hd o ho
      rcases List.mem_cons.1 hd with rfl | hd
      · exact hc o ho
      · exact hnew d hd o (List.mem_append_left _ ho)
    · rw [List.map_cons, List.nodup_cons]
      refine ⟨fun hmem => ?_, hnodup⟩
      obtain ⟨d, hd, heq⟩ := List.mem_map.1 hmem
      exact hnew d hd c (List.mem_append_right _ (List.mem_singleton.2 rfl)) heq.symm

theorem any_key_iff {there : List StoredCourse} {c : StoredCourse} :
    there.any (fun o => o.planId == c.planId && o.id == c.id) = true ↔
      ¬ ∀ o ∈ there, o.key ≠ c.key := by
  simp [StoredCourse.key, Prod.ext_iff]

theorem addCourse_new {a : Archive} {c : StoredCourse} (h : ∀ o ∈ a.courses, o.key ≠ c.key) :
    addCourse c a = (.ok (), { a with courses := a.courses ++ [c] }) := by
  have hany : a.courses.any (fun o => o.planId == c.planId && o.id == c.id) = false :=
    Bool.eq_false_iff.2 fun hany => any_key_iff.1 hany h
  rw [addCourse, bind_apply]
  show (ite _ _ _ : Changes Unit) a = _
  rw [hany]
  rfl

theorem addCourse_repeated {a : Archive} {c : StoredCourse}
    (h : ¬ ∀ o ∈ a.courses, o.key ≠ c.key) :
    addCourse c a = (.error (.archive .repeatedId), a) := by
  rw [addCourse, bind_apply]
  show (ite _ _ _ : Changes Unit) a = _
  rw [any_key_iff.2 h]
  rfl

/-- Rows are added if they fit, and otherwise one of them is refused. -/
theorem forM_addCourse (cs : List StoredCourse) : ∀ a : Archive,
    Fits a.courses cs ∧ cs.forM addCourse a = (.ok (), { a with courses := a.courses ++ cs }) ∨
      ¬ Fits a.courses cs ∧
        ∃ changed, cs.forM addCourse a = (.error (.archive .repeatedId), changed) := by
  induction cs with
  | nil =>
    intro a
    refine Or.inl ⟨⟨fun _ hc => (nomatch hc), List.nodup_nil⟩, ?_⟩
    rw [List.append_nil]
    rfl
  | cons c cs ih =>
    intro a
    have hstep : (c :: cs).forM addCourse a = (addCourse c >>= fun _ => cs.forM addCourse) a := rfl
    rw [hstep, bind_apply, fits_cons]
    by_cases hnew : ∀ o ∈ a.courses, o.key ≠ c.key
    · -- The rows after this one are compared with it as well.
      rw [addCourse_new hnew]
      have hrest := ih { a with courses := a.courses ++ [c] }
      rw [List.append_assoc] at hrest
      rcases hrest with ⟨hfits, hadded⟩ | ⟨hfits, hrefused⟩
      · exact Or.inl ⟨⟨hnew, hfits⟩, hadded⟩
      · exact Or.inr ⟨fun h => hfits h.2, hrefused⟩
    · rw [addCourse_repeated hnew]
      exact Or.inr ⟨fun h => hnew h.1, a, rfl⟩

/-! ## Saving and deleting -/

theorem keys_ofRecords (r : PlanRecord) :
    (StoredCourse.ofRecords r).map (·.key) = r.courses.map fun c => (r.id, signedId c.id) := by
  have hkey : (fun c : StoredCourse => c.key) ∘ (fun (x : PlannedCourseRecord × Nat) =>
      StoredCourse.ofRecord r.id x.1 x.2)
        = (fun c : PlannedCourseRecord => (r.id, signedId c.id)) ∘ Prod.fst := rfl
  rw [StoredCourse.ofRecords, List.map_map, hkey, ← List.map_map, List.zipIdx_map_fst]

theorem planId_ofRecords {r : PlanRecord} : ∀ c ∈ StoredCourse.ofRecords r, c.planId = r.id := by
  intro c hc
  obtain ⟨x, -, rfl⟩ := List.mem_map.1 hc
  rfl

/-- The rows of a record fit beside those of other plans if its numbers are different. -/
theorem fits_ofRecords {r : PlanRecord} (hsized : r.Sized) (hids : (r.courses.map (·.id)).Nodup)
    {there : List StoredCourse} (hthere : ∀ o ∈ there, o.planId ≠ r.id) :
    Fits there (StoredCourse.ofRecords r) where
  new c hc o ho hkey :=
    hthere o ho ((congrArg Prod.fst hkey).trans (planId_ofRecords c hc))
  nodup := by
    rw [keys_ofRecords]
    refine (List.Nodup.of_map _ hids).map_on fun c hc d hd hkey => ?_
    have hid : c.id = d.id := signedId_injective (hsized.courses c hc).1 (hsized.courses d hd).1
      (congrArg Prod.snd hkey)
    exact List.inj_on_of_nodup_map hids hc hd hid

theorem not_fits_ofRecords {r : PlanRecord} (hids : ¬ (r.courses.map (·.id)).Nodup)
    (there : List StoredCourse) : ¬ Fits there (StoredCourse.ofRecords r) := by
  intro hfits
  have hkeys := hfits.nodup
  have hkey : (fun c : PlannedCourseRecord => (r.id, signedId c.id))
      = (fun id => (r.id, signedId id)) ∘ (·.id) := rfl
  rw [keys_ofRecords, hkey, ← List.map_map] at hkeys
  exact hids (List.Nodup.of_map _ hkeys)

/-- The archive without the rows of the plan of a name. -/
def without (a : Archive) (id : String) : Archive where
  plans := a.plans.filter (·.id != id)
  courses := a.courses.filter (·.planId != id)

theorem planId_without {a : Archive} {id : String} :
    ∀ c ∈ (a.without id).courses, c.planId ≠ id :=
  fun _ hc => bne_iff_ne.1 (List.mem_filter.1 hc).2

/-- The changes of a save, before any of them is undone. -/
theorem saveRecord_eq (r : PlanRecord) (a : Archive) :
    saveRecord r a =
      atomically (fun b => (StoredCourse.ofRecords r).forM addCourse
        { b.without r.id with plans := .ofRecord r :: (b.without r.id).plans }) a := rfl

/-- A record whose numbers are different takes the place of the one of its name. -/
theorem saveRecord_accepted {r : PlanRecord} (hsized : r.Sized)
    (hids : (r.courses.map (·.id)).Nodup) (a : Archive) :
    saveRecord r a = (.ok (),
      { plans := .ofRecord r :: (a.without r.id).plans
        courses := (a.without r.id).courses ++ StoredCourse.ofRecords r }) := by
  rw [saveRecord_eq, atomically]
  rcases forM_addCourse (StoredCourse.ofRecords r)
    { a.without r.id with plans := .ofRecord r :: (a.without r.id).plans } with
    ⟨-, hadded⟩ | ⟨hfits, -⟩
  · rw [hadded]
  · exact absurd (fits_ofRecords hsized hids planId_without) hfits

/-- A record in which a number is repeated is refused, and all changes are undone. -/
theorem saveRecord_refused {r : PlanRecord} (hids : ¬ (r.courses.map (·.id)).Nodup)
    (a : Archive) : saveRecord r a = (.error (.archive .repeatedId), a) := by
  rw [saveRecord_eq, atomically]
  rcases forM_addCourse (StoredCourse.ofRecords r)
    { a.without r.id with plans := .ofRecord r :: (a.without r.id).plans } with
    ⟨hfits, -⟩ | ⟨-, changed, hrefused⟩
  · exact absurd hfits (not_fits_ofRecords hids _)
  · rw [hrefused]

theorem delete_eq (a : Archive) (id : String) :
    a.delete id = (a.without id, (a.find? id).isSome) := rfl

end Archive

end StudyPlan
