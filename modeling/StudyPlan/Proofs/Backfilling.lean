import StudyPlan.Proofs.Sharing

/-!
# What the minors leave over

The minors share the slots of the majors as far as they go, those with the smallest pools
first.  In a drafted plan this can still be seen (`Backfilled`), though every choice was
made among the slots that were free at that time.  A slot that is left over in the end was
free at every turn (`Accounted.free_of_leftOver`), so each choice was compared with it.

The ids of the requirements have to be different ones.  Otherwise an id would not tell for
which requirement a slot was planned.
-/

namespace StudyPlan

/-- A slot of a major that no minor shares. -/
structure PlannedCourse.LeftOver (majors : List Requirement) (p : PlannedCourse) : Prop where
  elective : p.isElective = true
  unshared : p.sharedRequirementId = none
  asked : ∃ r ∈ majors, p.requirementId = some r.id

/-- The minors took all slots of the majors that serve them, and always one with a pool
that was as small as any. -/
structure Backfilled (catalog : Catalog) (majors minors : List Requirement) (plan : Plan) :
    Prop where
  /-- Where a slot was planned for a minor, no slot that is left over would have done. -/
  complete : ∀ m ∈ minors, m.Elective catalog →
    (∃ p ∈ plan.courses, p.requirementId = some m.id) →
      ∀ q ∈ plan.courses, q.LeftOver majors → ¬ Covers q.pool (Query.pool catalog m.query)
  /-- The slots that are left over and would have done as well have no smaller pool. -/
  tightest : ∀ m ∈ minors, ∀ p ∈ plan.courses, p.sharedRequirementId = some m.id →
    ∃ r ∈ majors, p.requirementId = some r.id ∧
      ∀ q ∈ plan.courses, q.LeftOver majors → Covers q.pool (Query.pool catalog m.query) →
        (Query.pool catalog r.query).length ≤ q.pool.length

theorem PlannedCourse.LeftOver.of_untimed {majors : List Requirement} {p q : PlannedCourse}
    (h : p.LeftOver majors) (heq : p.untimed = q.untimed) : q.LeftOver majors where
  elective := (congrArg isElective heq).symm.trans h.elective
  unshared := (congrArg sharedRequirementId heq).symm.trans h.unshared
  asked := by
    obtain ⟨r, hr, hasked⟩ := h.asked
    exact ⟨r, hr, (congrArg requirementId heq).symm.trans hasked⟩

theorem Backfilled.retimed {catalog : Catalog} {majors minors : List Requirement}
    {plan next : Plan} (h : Backfilled catalog majors minors plan)
    (hcourses : Retimed plan.courses next.courses) : Backfilled catalog majors minors next where
  complete m hm helective := by
    rintro ⟨p, hp, hasked⟩ q hq hleft
    obtain ⟨p', hp', hpeq⟩ := hcourses.symm.exists_mem hp
    obtain ⟨q', hq', hqeq⟩ := hcourses.symm.exists_mem hq
    have hpool : q'.pool = q.pool := (congrArg PlannedCourse.pool hqeq :)
    rw [← hpool]
    exact h.complete m hm helective
      ⟨p', hp', (congrArg PlannedCourse.requirementId hpeq).trans hasked⟩ q' hq'
      (hleft.of_untimed hqeq.symm)
  tightest m hm p hp hshared := by
    obtain ⟨p', hp', hpeq⟩ := hcourses.symm.exists_mem hp
    obtain ⟨r, hr, hasked, hleast⟩ := h.tightest m hm p' hp'
      ((congrArg PlannedCourse.sharedRequirementId hpeq).trans hshared)
    refine ⟨r, hr, (congrArg PlannedCourse.requirementId hpeq).symm.trans hasked, ?_⟩
    intro q hq hleft hcovers
    obtain ⟨q', hq', hqeq⟩ := hcourses.symm.exists_mem hq
    have hpool : q'.pool = q.pool := (congrArg PlannedCourse.pool hqeq :)
    rw [← hpool] at hcovers ⊢
    exact hleast q' hq' (hleft.of_untimed hqeq.symm) hcovers

namespace Draft

variable {catalog : Catalog} {majors minors : List Requirement} {d : Draft} {p : PlannedCourse}

theorem Accounted.free_of_leftOver (h : Accounted catalog majors minors d)
    (hids : ((majors ++ minors).map (·.id)).Nodup) (hp : p ∈ d.plan.courses)
    (hleft : p.LeftOver majors) : d.Free p := by
  cases h.made p hp with
  | required _ _ _ fixed => cases fixed.symm.trans hleft.elective
  | own _ _ _ _ free => exact free
  | shared _ _ _ _ shared => cases shared.symm.trans hleft.unshared
  | fresh minor slot =>
    obtain ⟨r, hr, hasked⟩ := hleft.asked
    exact absurd (hasked.symm.trans slot.asked) (ids_apart hids hr minor)

theorem Accounted.backfilled (h : Accounted catalog majors minors d)
    (hids : ((majors ++ minors).map (·.id)).Nodup) :
    Backfilled catalog majors minors d.plan where
  complete m hm helective := by
    rintro ⟨p, hp, hasked⟩ q hq hleft
    have hfree := h.free_of_leftOver hids hq hleft
    cases h.made p hp with
    | required given whole asked =>
      obtain rfl := eq_of_id hids given hm (asked.symm.trans hasked)
      exact absurd helective whole
    | own major slot => exact absurd (slot.asked.symm.trans hasked) (ids_apart hids major hm)
    | shared major _ slot => exact absurd (slot.asked.symm.trans hasked) (ids_apart hids major hm)
    | fresh minor slot _ _ none =>
      obtain rfl := eq_of_id hids (List.mem_append_right _ minor) hm (slot.asked.symm.trans hasked)
      exact none q hfree
  tightest m hm p hp hid := by
    cases h.made p hp with
    | required _ _ _ _ unshared => cases unshared.symm.trans hid
    | own _ _ unshared => cases unshared.symm.trans hid
    | shared major minor slot _ shared _ _ least =>
      obtain rfl := eq_of_id hids (List.mem_append_right _ minor) hm (shared.symm.trans hid)
      exact ⟨_, major, slot.asked, fun q hq hleft => least q (h.free_of_leftOver hids hq hleft)⟩
    | fresh _ _ unshared => cases unshared.symm.trans hid

end Draft

namespace Plan

/-- A minor takes all slots of the majors that serve it, those with the smallest pools
first. -/
theorem draft_backfilled (catalog : Catalog) (settings : Settings) (time title : String)
    (userId : Option String) (programs : List Program) (source : Chance.Source)
    (hids : ((programs.flatMap (·.requirements)).map (·.id)).Nodup) :
    Backfilled catalog (majorRequirements programs) (minorRequirements programs)
      (draft catalog settings time title userId programs source).plan := by
  obtain ⟨d, h, hcourses⟩ :=
    draft_accounted catalog settings time title userId programs source
  have horder : ((majorRequirements programs ++ minorRequirements programs).map (·.id)).Nodup :=
    ((Draft.order_perm programs).map (·.id)).nodup_iff.2 hids
  exact (h.backfilled horder).retimed hcourses

/-- One slot of the major is left over, and it would not serve the requirement of the minor
for which a slot was planned. -/
theorem draft_backfilled_chosen :
    ((choices.flatMap (·.requirements)).map (·.id)).Nodup ∧
    (chosen.courses.map fun p => (p.requirementId, p.sharedRequirementId))
      = [(some "any", some "broad"), (some "pair", some "data"), (some "three", none),
          (some "basics", none)] ∧
    Backfilled (.ofCourses shelf) (majorRequirements choices) (minorRequirements choices)
      chosen := by
  have hids : ((choices.flatMap (·.requirements)).map (·.id)).Nodup := by decide
  have hbackfilled :=
    draft_backfilled (.ofCourses shelf) {} "0" "Choices" none choices (.ofList []) hids
  exact ⟨hids, by decide +kernel, hbackfilled⟩

end Plan

end StudyPlan
