import StudyPlan.Proofs.Drafting

/-!
# Requirements in a plan

A drafted plan has what its programs ask for (`Represents`).  A course that a requirement
demands is shown by a planned course, perhaps one of another requirement.  The slots that
it demands are there in their exact number: some were made for it, and a minor shares the
others with the requirements that they were made for.

The count is exact because the ids of the requirements are different.  A slot that comes
later carries another id, so it does not count for an earlier requirement; and before a
requirement has its turn, nothing carries its id (`Standing`).  A step then adds to its
count what it says it finds, and nothing to any other (`Step.countP_serves`).
-/

namespace StudyPlan

/-- A slot serves the requirement of an id. -/
def PlannedCourse.serves (id : String) (p : PlannedCourse) : Bool :=
  p.isElective && (p.requirementId == some id || p.sharedRequirementId == some id)

theorem PlannedCourse.serves_iff {id : String} {p : PlannedCourse} :
    p.serves id = true ↔
      p.isElective = true ∧ (p.requirementId = some id ∨ p.sharedRequirementId = some id) := by
  simp [PlannedCourse.serves]

/-- A plan has what some requirements demand, and nothing for any other. -/
structure Represents (catalog : Catalog) (requirements : List Requirement) (plan : Plan) :
    Prop where
  /-- Every course of a whole pool is planned. -/
  whole : ∀ r ∈ requirements, ∀ courses, r.demand catalog = .whole courses →
    ∀ c ∈ courses, ∃ p ∈ plan.courses, p.code = c.code
  /-- The slots that serve a requirement are as many as it demands. -/
  slots : ∀ r ∈ requirements, ∀ placeholder pool count,
    r.demand catalog = .slots placeholder pool count →
      plan.courses.countP (·.serves r.id) = slotCount r.credits placeholder.credits
  /-- Every planned course is made for one of the requirements. -/
  asked : ∀ p ∈ plan.courses, ∃ r ∈ requirements, p.requirementId = some r.id

namespace Draft

variable {catalog : Catalog} {done : List Requirement} {r : Requirement}
  {start plan next : Plan} {n k : Nat} {p : PlannedCourse}

/-- A planned course carries ids of some requirements only, and it has a pool only if it is
a slot. -/
structure Traced (done : List Requirement) (p : PlannedCourse) : Prop where
  asked : ∃ r ∈ done, p.requirementId = some r.id
  shared : ∀ id, p.sharedRequirementId = some id → ∃ r ∈ done, r.id = id
  pooled : p.pool ≠ [] → p.isElective = true

theorem Traced.mono {done' : List Requirement} (h : Traced done p) (hsub : done ⊆ done') :
    Traced done' p where
  asked := by
    obtain ⟨r, hr, hid⟩ := h.asked
    exact ⟨r, hsub hr, hid⟩
  shared id hid := by
    obtain ⟨r, hr, hid⟩ := h.shared id hid
    exact ⟨r, hsub hr, hid⟩
  pooled := h.pooled

theorem Step.traced (h : Step catalog r start plan k next) (hr : r ∈ done)
    (hplan : ∀ p ∈ plan.courses, Traced done p) : ∀ p ∈ next.courses, Traced done p := by
  refine h.forall_mem hplan ?_ ?_ ?_
  · exact fun c _ id => ⟨⟨r, hr, rfl⟩, fun _ hnone => (nomatch hnone), fun hnil => absurd rfl hnil⟩
  · exact fun id => ⟨⟨r, hr, rfl⟩, fun _ hnone => (nomatch hnone), fun _ => rfl⟩
  · intro slot hslot hpooled
    refine ⟨hslot.asked, fun id hid => ⟨r, hr, Option.some.inj hid⟩, fun _ => ?_⟩
    exact hslot.pooled hpooled

/-- A requirement whose id nothing carries yet. -/
def Unasked (r : Requirement) (plan : Plan) : Prop :=
  ∀ p ∈ plan.courses, p.requirementId ≠ some r.id ∧ p.sharedRequirementId ≠ some r.id

theorem countP_push (f : PlannedCourse → Bool) (plan : Plan) (p : PlannedCourse) :
    (plan.push p).courses.countP f
      = plan.courses.countP f + if f { p with id := plan.idFor p } then 1 else 0 := by
  rw [Plan.push, List.countP_append, List.countP_singleton]

theorem countP_middle (f : PlannedCourse → Bool) (before after : List PlannedCourse)
    (p : PlannedCourse) :
    (before ++ p :: after).countP f
      = (before ++ after).countP f + if f p then 1 else 0 := by
  rw [List.perm_middle.countP_eq, List.countP_cons]

theorem Step.countP_serves (h : Step catalog r start plan k next) (hstart : Unasked r start)
    (hplan : ∀ p ∈ plan.courses, p.pool ≠ [] → p.isElective = true) (id : String) :
    next.courses.countP (·.serves id)
      = plan.courses.countP (·.serves id) + if id = r.id then k else 0 := by
  cases h with
  | course _ _ =>
    rw [countP_push, ite_self]
    rfl
  | slot =>
    rw [countP_push]
    refine congrArg (plan.courses.countP _ + ·) (if_congr ?_ rfl rfl)
    rw [PlannedCourse.serves_iff]
    constructor
    · rintro ⟨-, hasked | hshared⟩
      · exact (Option.some.inj hasked).symm
      · cases hshared
    · rintro rfl
      exact ⟨rfl, Or.inl rfl⟩
  | @share before after slot split pooled unshared earlier =>
    have helective : slot.isElective = true :=
      hplan slot (split ▸ List.perm_middle.mem_iff.2 (List.mem_cons_self ..)) pooled
    -- The slot is of an earlier requirement, so it does not serve this one yet.
    have hother : slot.requirementId ≠ some r.id := by
      obtain ⟨q, hq, heq⟩ := List.mem_map.1 earlier
      exact heq ▸ (hstart q hq).1
    rw [split, countP_middle, countP_middle, Nat.add_assoc]
    refine congrArg ((before ++ after).countP _ + ·) ?_
    by_cases hid : id = r.id
    · subst hid
      have hserves : ¬ slot.serves r.id = true := by
        simp [PlannedCourse.serves_iff, hother, unshared]
      rw [if_neg hserves, if_pos rfl, if_pos]
      exact PlannedCourse.serves_iff.2 ⟨helective, Or.inr rfl⟩
    · rw [if_neg hid, Nat.add_zero]
      refine if_congr ?_ rfl rfl
      simp [PlannedCourse.serves_iff, unshared, Ne.symm hid]

theorem Steps.countP_serves (h : Steps catalog r start n next) (hr : r ∈ done)
    (hstart : Unasked r start) (htraced : ∀ p ∈ start.courses, Traced done p) :
    (∀ p ∈ next.courses, Traced done p) ∧
      ∀ id, next.courses.countP (·.serves id)
        = start.courses.countP (·.serves id) + if id = r.id then n else 0 := by
  induction h with
  | refl => exact ⟨htraced, fun id => by rw [ite_self, Nat.add_zero]⟩
  | tail _ last ih =>
    refine ⟨last.traced hr ih.1, fun id => ?_⟩
    rw [last.countP_serves hstart (fun p hp => (ih.1 p hp).pooled) id, ih.2 id, Nat.add_assoc]
    refine congrArg (start.courses.countP _ + ·) ?_
    by_cases hid : id = r.id
    · rw [if_pos hid, if_pos hid, if_pos hid]
    · rw [if_neg hid, if_neg hid, if_neg hid]

/-! ## Requirements -/

/-- What a draft has when some requirements have had their turn. -/
structure Standing (catalog : Catalog) (done : List Requirement) (plan : Plan) : Prop where
  traced : ∀ p ∈ plan.courses, Traced done p
  whole : ∀ r ∈ done, ∀ {courses}, r.demand catalog = .whole courses →
    ∀ c ∈ courses, ∃ p ∈ plan.courses, p.code = c.code
  slots : ∀ r ∈ done, plan.courses.countP (·.serves r.id) = (r.demand catalog).count

theorem Standing.unasked (h : Standing catalog done plan) (hr : r.id ∉ done.map (·.id)) :
    Unasked r plan := by
  intro p hp
  constructor
  · intro hid
    obtain ⟨r', hr', heq⟩ := (h.traced p hp).asked
    exact hr (List.mem_map.2 ⟨r', hr', Option.some.inj (heq.symm.trans hid)⟩)
  · intro hid
    obtain ⟨r', hr', heq⟩ := (h.traced p hp).shared r.id hid
    exact hr (List.mem_map.2 ⟨r', hr', heq⟩)

theorem Unasked.countP_serves (h : Unasked r plan) :
    plan.courses.countP (·.serves r.id) = 0 := by
  refine List.countP_eq_zero.2 fun p hp hserves => ?_
  cases (PlannedCourse.serves_iff.1 hserves).2 with
  | inl hasked => exact (h p hp).1 hasked
  | inr hshared => exact (h p hp).2 hshared

theorem Standing.served (h : Standing catalog done plan) (hr : r.id ∉ done.map (·.id))
    (hserved : Served catalog r plan next) : Standing catalog (done ++ [r]) next := by
  have hlast : r ∈ done ++ [r] := List.mem_append_right _ (List.mem_singleton.2 rfl)
  obtain ⟨htraced, hcount⟩ := hserved.steps.countP_serves hlast (h.unasked hr)
    fun p hp => (h.traced p hp).mono (List.subset_append_left ..)
  constructor
  · exact htraced
  · intro r' hr' courses hwhole c hc
    cases List.mem_append.1 hr' with
    | inl hearlier => exact hserved.steps.shows (h.whole r' hearlier hwhole c hc)
    | inr hnew =>
      obtain rfl := List.mem_singleton.1 hnew
      exact hserved.whole hwhole c hc
  · intro r' hr'
    rw [hcount]
    cases List.mem_append.1 hr' with
    | inl hearlier =>
      have hne : r'.id ≠ r.id := fun hid => hr (List.mem_map.2 ⟨r', hearlier, hid⟩)
      rw [if_neg hne, h.slots r' hearlier, Nat.add_zero]
    | inr hnew =>
      obtain rfl := List.mem_singleton.1 hnew
      rw [if_pos rfl, (h.unasked hr).countP_serves, Nat.zero_add]

theorem Standing.retimed (h : Standing catalog done plan)
    (hcourses : Retimed plan.courses next.courses) : Standing catalog done next where
  traced := hcourses.forall_mem
    (fun _ => ⟨fun h => ⟨h.asked, h.shared, h.pooled⟩, fun h => ⟨h.asked, h.shared, h.pooled⟩⟩)
    h.traced
  whole r hr courses hwhole c hc := by
    obtain ⟨p, hp, hcode⟩ := h.whole r hr hwhole c hc
    obtain ⟨q, hq, heq⟩ := hcourses.exists_mem hp
    exact ⟨q, hq, (congrArg PlannedCourse.code heq).trans hcode⟩
  slots r hr := (hcourses.countP fun _ => rfl).symm.trans (h.slots r hr)

theorem Standing.represents (h : Standing catalog done plan) : Represents catalog done plan where
  whole r hr _ hwhole := h.whole r hr hwhole
  slots r hr placeholder pool count hslots := by
    have hcount := h.slots r hr
    cases r.demand_cases catalog with
    | inl hwhole => cases hwhole.symm.trans hslots
    | inr hdemand =>
      obtain ⟨rfl, -, rfl⟩ := Demand.slots.inj (hdemand.2.symm.trans hslots)
      rw [hdemand.2] at hcount
      exact hcount
  asked p hp := (h.traced p hp).asked

end Draft

theorem Represents.of_perm {catalog : Catalog} {requirements requirements' : List Requirement}
    {plan : Plan} (h : Represents catalog requirements plan)
    (hperm : requirements.Perm requirements') : Represents catalog requirements' plan where
  whole r hr := h.whole r (hperm.mem_iff.2 hr)
  slots r hr := h.slots r (hperm.mem_iff.2 hr)
  asked p hp := by
    obtain ⟨r, hr, hid⟩ := h.asked p hp
    exact ⟨r, hperm.mem_iff.1 hr, hid⟩

/-- In a drafted plan all requirements have had their turn. -/
theorem draft_standing (catalog : Catalog) (settings : Settings) (time title : String)
    (userId : Option String) (programs : List Program) (source : Chance.Source)
    (hids : ((programs.flatMap (·.requirements)).map (·.id)).Nodup) :
    Draft.Standing catalog (Draft.order programs)
      (Plan.draft catalog settings time title userId programs source).plan := by
  have hstanding := (Plan.draft_induct catalog
    (P := fun done plan => (done.map (·.id)).Nodup → Draft.Standing catalog done plan)
    ?_ ?_ ?_ settings time title userId programs source).2
  · exact hstanding (((Draft.order_perm programs).map (·.id)).nodup_iff.2 hids)
  · intro plan hnil _
    constructor
    · intro p hp
      rw [hnil] at hp
      cases hp
    · exact fun _ hr => nomatch hr
    · exact fun _ hr => nomatch hr
  · intro done r plan next _ h hserved hnodup
    rw [List.map_append, List.map_singleton, ← List.concat_eq_append,
      List.nodup_concat] at hnodup
    exact (h hnodup.2).served hnodup.1 hserved
  · exact fun hcourses h hnodup => (h hnodup).retimed hcourses

/-- A drafted plan has what its programs demand. -/
theorem draft_represents (catalog : Catalog) (settings : Settings) (time title : String)
    (userId : Option String) (programs : List Program) (source : Chance.Source)
    (hids : ((programs.flatMap (·.requirements)).map (·.id)).Nodup) :
    Represents catalog (programs.flatMap (·.requirements))
      (Plan.draft catalog settings time title userId programs source).plan :=
  (draft_standing catalog settings time title userId programs source hids).represents.of_perm
    (Draft.order_perm programs)

/-- The sketch has two slots for the major, and the minor shares one of them. -/
theorem draft_represents_sketch :
    ((Plan.majorAndMinor.flatMap (·.requirements)).map (·.id)).Nodup ∧
    (["first", "later", "data"].map fun id => Plan.sketch.courses.countP (·.serves id))
      = [0, 2, 1] ∧
    Represents (.ofCourses Plan.shelf) (Plan.majorAndMinor.flatMap (·.requirements))
      Plan.sketch := by
  have hids : ((Plan.majorAndMinor.flatMap (·.requirements)).map (·.id)).Nodup := by decide
  exact ⟨hids, by decide +kernel, draft_represents _ _ _ _ _ _ _ hids⟩

end StudyPlan
