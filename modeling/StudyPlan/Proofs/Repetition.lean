import StudyPlan.Proofs.Drafting
import StudyPlan.Proofs.Editing

/-!
# No course twice

A slot is *vacant* as long as it shows the placeholder that it started with.  Slots that
start alike all show the same placeholder, so a plan may hold that course many times.
Any other course it holds once: of two planned courses that show the same one, at least
one is a vacant slot (`Varied`).

This does not follow from the check that an edit makes.  A slot that is reset is not
checked at all, and it may show what a required course shows; but it is vacant then.  A
draft plans a slot without a check too, and so a required course that comes later may be
left out in favour of a placeholder.  What is checked, in a draft and in an edit, is every
course that makes a planned course that is not vacant.
-/

namespace StudyPlan

namespace PlannedCourse

variable {p q : PlannedCourse}

/-- A slot shows the placeholder that it started with. -/
def Vacant (p : PlannedCourse) : Prop := p.isElective = true ∧ p.placeholder = some p.course

/-- If two planned courses show the same course, a vacant slot is one of them. -/
def Differ (p q : PlannedCourse) : Prop := p.code = q.code → p.Vacant ∨ q.Vacant

theorem Differ.symm (h : Differ p q) : Differ q p := fun hcode => (h hcode.symm).symm

theorem Differ.withPool (h : Differ p q) (pool : List Course) (requirementId : Option String) :
    Differ { p with pool, sharedRequirementId := requirementId } q := h

theorem differ_of_ne (h : p.code ≠ q.code) : Differ p q := fun hcode => absurd hcode h

theorem differ_of_vacant (h : p.Vacant) : Differ p q := fun _ => Or.inl h

end PlannedCourse

namespace Plan

open PlannedCourse

variable {catalog : Catalog} {start plan next : Plan} {r : Requirement} {k : Nat}

/-- Of two planned courses that show the same course, one is a vacant slot. -/
def Varied (plan : Plan) : Prop := plan.courses.Pairwise Differ

theorem Varied.push (h : plan.Varied) {p : PlannedCourse}
    (hp : ∀ q ∈ plan.courses, Differ q { p with id := plan.idFor p }) : (plan.push p).Varied := by
  refine List.pairwise_append.2 ⟨h, List.pairwise_singleton .., fun q hq last hlast => ?_⟩
  rw [List.mem_singleton.1 hlast]
  exact hp q hq

/-- A planned course in the middle may be exchanged for one that differs from the others. -/
theorem Varied.replace (h : plan.Varied) {before after : List PlannedCourse}
    {p q : PlannedCourse} (hsplit : plan.courses = before ++ p :: after)
    (hq : ∀ o ∈ before ++ after, Differ p o → Differ q o) :
    (before ++ q :: after).Pairwise Differ := by
  unfold Varied at h
  rw [hsplit, List.pairwise_middle Differ.symm, List.pairwise_cons] at h
  rw [List.pairwise_middle Differ.symm, List.pairwise_cons]
  exact ⟨fun o ho => hq o ho (h.1 o ho), h.2⟩

theorem Varied.retimed (h : plan.Varied) (hcourses : Retimed plan.courses next.courses) :
    next.Varied :=
  hcourses.pairwise Differ.symm (fun _ _ => Iff.rfl) h

/-! ## Steps -/

theorem Varied.step (h : plan.Varied) (hstep : Draft.Step catalog r start plan k next) :
    next.Varied := by
  cases hstep with
  | course _ new => exact h.push fun q hq => differ_of_ne (new q hq)
  | slot => exact h.push fun _ _ => (differ_of_vacant ⟨rfl, rfl⟩).symm
  | share split _ _ _ => exact h.replace split fun _ _ hdiffer => hdiffer.withPool _ _

theorem Varied.change (h : plan.Varied) (hchange : Change catalog plan next) : next.Varied := by
  cases hchange with
  | retimed courses _ => exact h.retimed courses
  | filled split _ _ new =>
    exact h.replace split fun o ho _ => differ_of_ne fun hcode => new o ho hcode.symm
  | emptied split elective placeholder =>
    exact h.replace split fun _ _ _ => differ_of_vacant ⟨elective, placeholder⟩

theorem draft_varied (catalog : Catalog) (settings : Settings) (time title : String)
    (userId : Option String) (programs : List Program) (source : Chance.Source) :
    let plan := (draft catalog settings time title userId programs source).plan
    plan.Counted ∧ plan.Varied := by
  refine draft_induct catalog (P := fun _ plan => plan.Varied) ?_ ?_ ?_ settings time title
    userId programs source
  · intro plan hnil
    unfold Varied
    rw [hnil]
    exact .nil
  · intro _ _ _ _ hids h hserved
    exact (hserved.steps.induct hids h fun _ h hstep => h.step hstep).2
  · exact fun hcourses h => h.retimed hcourses

/-! ## Runs -/

theorem Varied.differ (h : plan.Varied) {i j : Nat} {p q : PlannedCourse} (hij : i ≠ j)
    (hp : plan.courses[i]? = some p) (hq : plan.courses[j]? = some q) : Differ p q := by
  obtain ⟨hi, rfl⟩ := List.getElem?_eq_some_iff.1 hp
  obtain ⟨hj, rfl⟩ := List.getElem?_eq_some_iff.1 hq
  cases Nat.lt_or_gt_of_ne hij with
  | inl hlt => exact List.pairwise_iff_getElem.1 h i j hi hj hlt
  | inr hgt => exact (List.pairwise_iff_getElem.1 h j i hj hi hgt).symm

/-- In a drafted plan after any run of requests, two planned courses show the same course
only if one of them is a vacant slot.  Two that are required or filled show different
ones. -/
theorem draft_respondAll_varied (catalog : Catalog) (settings : Settings) (time title : String)
    (userId : Option String) (programs : List Program) (source : Chance.Source)
    (rs : List EditRequest) {i j : Nat} {p q : PlannedCourse} (hij : i ≠ j)
    (hp : ((draft catalog settings time title userId programs source).plan.respondAll
      rs).courses[i]? = some p)
    (hq : ((draft catalog settings time title userId programs source).plan.respondAll
      rs).courses[j]? = some q) :
    (p.code = q.code → p.Vacant ∨ q.Vacant) ∧
      ((p.isElective = false ∨ p.placeholder ≠ some p.course) →
        (q.isElective = false ∨ q.placeholder ≠ some q.course) → p.code ≠ q.code) := by
  obtain ⟨hids, hdraft⟩ := draft_varied catalog settings time title userId programs source
  have hvaried := (respondAll_induct hids.toDistinct hdraft rs
    fun _ _ _ _ _ h hchange => h.change hchange).2
  have hdiffer := hvaried.differ hij hp hq
  refine ⟨hdiffer, fun hp' hq' hcode => ?_⟩
  cases hdiffer hcode with
  | inl hvacant => exact hp'.elim (by simp [hvacant.1]) (· hvacant.2)
  | inr hvacant => exact hq'.elim (by simp [hvacant.1]) (· hvacant.2)

/-- Requests to fill both slots of the sketch, the second time with another course. -/
def slotRequests : List EditRequest :=
  [.substitute 2 "data 301", .substitute 3 "DATA 301", .substitute 3 "DATA 405"].map
    (⟨·, .ofCourses shelf, 5⟩)

/-- A planned course of the sketch after some requests. -/
def sketchAt (rs : List EditRequest) (i : Nat) : PlannedCourse :=
  (sketch.respondAll rs).courses.getD i default

theorem getElem?_sketchAt {rs : List EditRequest} {i : Nat}
    (h : i < (sketch.respondAll rs).courses.length) :
    (sketch.respondAll rs).courses[i]? = some (sketchAt rs i) := by
  rw [sketchAt, List.getD_eq_getElem _ _ h]
  exact List.getElem?_eq_getElem h

/-- The slots of the sketch show one placeholder at first, and then different courses. -/
theorem draft_respondAll_varied_sketch :
    ((sketchAt [] 1).code = (sketchAt [] 2).code ∧
      ((sketchAt [] 1).Vacant ∨ (sketchAt [] 2).Vacant)) ∧
    (sketchAt slotRequests 1).placeholder ≠ some (sketchAt slotRequests 1).course ∧
      (sketchAt slotRequests 2).placeholder ≠ some (sketchAt slotRequests 2).course ∧
      (sketchAt slotRequests 1).code ≠ (sketchAt slotRequests 2).code := by
  have hall : ∀ rs ∈ [[], slotRequests], (sketch.respondAll rs).courses.length = 3 := by
    decide +kernel
  have hempty := hall [] (List.mem_cons_self ..)
  have hfilled := hall slotRequests (List.mem_cons_of_mem _ (List.mem_cons_self ..))
  have hcode : (sketchAt [] 1).code = (sketchAt [] 2).code := by decide +kernel
  have hone : (sketchAt slotRequests 1).placeholder ≠ some (sketchAt slotRequests 1).course := by
    decide +kernel
  have htwo : (sketchAt slotRequests 2).placeholder ≠ some (sketchAt slotRequests 2).course := by
    decide +kernel
  have hsame := draft_respondAll_varied _ _ _ _ _ _ _ [] (by decide : 1 ≠ 2)
    (getElem?_sketchAt (by omega)) (getElem?_sketchAt (by omega))
  have hother := draft_respondAll_varied _ _ _ _ _ _ _ slotRequests (by decide : 1 ≠ 2)
    (getElem?_sketchAt (by omega)) (getElem?_sketchAt (by omega))
  exact ⟨⟨hcode, hsame.1 hcode⟩, hone, htwo, hother.2 (Or.inr hone) (Or.inr htwo)⟩

end Plan

end StudyPlan
