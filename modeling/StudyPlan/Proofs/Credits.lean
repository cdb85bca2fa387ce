import Mathlib.Algebra.Order.BigOperators.Group.List
import Mathlib.Algebra.Group.Action.Defs
import Mathlib.Algebra.Order.Group.Nat
import StudyPlan.Proofs.Representation
import StudyPlan.Proofs.Resolving
import StudyPlan.Proofs.Sharing

/-!
# Credits of slots

A requirement that demands slots asks for as many as its own placeholder needs to reach
its credits (`slotCount_isLeast`).  The slots that were planned for it have that
placeholder, so a major always has its credits.

A minor has slots of majors as well, and these keep their own placeholders.  It has its
credits where none of them is worth less than a slot of its own (`draft_credits`).  A draft
does not compare the two.  Where a slot that it shares is worth less, the minor is left
without some of its credits (`draft_credits_short`).
-/

namespace StudyPlan

/-- The credits of the placeholder of a slot. -/
def PlannedCourse.worth (p : PlannedCourse) : Nat := (p.placeholder.map (·.credits)).getD 0

/-- The credits of the slots that serve the requirement of an id. -/
def Plan.slotCredits (plan : Plan) (id : String) : Nat :=
  ((plan.courses.filter (·.serves id)).map (·.worth)).foldr (· + ·) 0

/-- Slots of which each has some credits have them as many times. -/
theorem Plan.le_slotCredits {plan : Plan} {id : String} {credits : Nat}
    (h : ∀ p ∈ plan.courses, p.serves id = true → credits ≤ p.worth) :
    plan.courses.countP (·.serves id) * credits ≤ plan.slotCredits id := by
  rw [List.countP_eq_length_filter, ← smul_eq_mul, ← List.length_map (·.worth)]
  refine List.card_nsmul_le_sum _ credits fun worth hworth => ?_
  obtain ⟨p, hp, rfl⟩ := List.mem_map.1 hworth
  obtain ⟨hp, hserves⟩ := List.mem_filter.1 hp
  exact h p hp hserves

namespace Draft

variable {catalog : Catalog} {majors minors : List Requirement} {r m : Requirement}
  {d : Draft} {p : PlannedCourse}

theorem worth_of_slotOf (h : p.SlotOf catalog r) : p.worth = (r.placeholder catalog).credits := by
  rw [PlannedCourse.worth, h.placeholder]
  rfl

/-- A slot that was planned for a requirement is worth its placeholder. -/
theorem Accounted.worth_of_asked (h : Accounted catalog majors minors d)
    (hids : ((majors ++ minors).map (·.id)).Nodup) (hr : r ∈ majors ++ minors)
    (hp : p ∈ d.plan.courses) (helective : p.isElective = true)
    (hasked : p.requirementId = some r.id) : p.worth = (r.placeholder catalog).credits := by
  have hslot : ∀ {s}, s ∈ majors ++ minors → p.SlotOf catalog s → p.SlotOf catalog r := by
    intro s hs hslot
    have hid : s.id = r.id := Option.some.inj (hslot.asked.symm.trans hasked)
    rwa [List.inj_on_of_nodup_map hids hs hr hid] at hslot
  cases h.made p hp with
  | required _ _ _ fixed => cases fixed.symm.trans helective
  | own major slot => exact worth_of_slotOf (hslot (List.mem_append_left _ major) slot)
  | shared major _ slot => exact worth_of_slotOf (hslot (List.mem_append_left _ major) slot)
  | fresh minor slot => exact worth_of_slotOf (hslot (List.mem_append_right _ minor) slot)

/-- A slot that serves a requirement is one of its own, or a minor shares it. -/
theorem Accounted.worth_of_serves (h : Accounted catalog majors minors d)
    (hids : ((majors ++ minors).map (·.id)).Nodup) (hr : r ∈ majors ++ minors)
    (hp : p ∈ d.plan.courses) (hserves : p.serves r.id = true) :
    p.worth = (r.placeholder catalog).credits ∨
      r ∈ minors ∧ ∃ s ∈ majors, p.SharedBy catalog s r ∧
        p.worth = (s.placeholder catalog).credits := by
  obtain ⟨helective, hasked | hid⟩ := PlannedCourse.serves_iff.1 hserves
  · exact Or.inl (h.worth_of_asked hids hr hp helective hasked)
  · obtain ⟨s, hs, m, hm, hmid, hshared⟩ := h.sharedBy hp hid
    obtain rfl := List.inj_on_of_nodup_map hids (List.mem_append_right _ hm) hr hmid
    exact Or.inr ⟨hm, s, hs, hshared, worth_of_slotOf hshared.slot⟩

end Draft

namespace Plan

section Drafted

variable (catalog : Catalog) (settings : Settings) (time title : String)
  (userId : Option String) (programs : List Program) (source : Chance.Source)

/-- A requirement has its credits if no slot of a major that it shares is worth less than
one of its own. -/
theorem draft_le_slotCredits (hids : ((Draft.order programs).map (·.id)).Nodup)
    {r : Requirement} (hr : r ∈ Draft.order programs) (helective : r.Elective catalog)
    (hpos : 0 < (r.placeholder catalog).credits)
    (hworth : r ∈ minorRequirements programs → ∀ s ∈ majorRequirements programs,
      ∀ p ∈ (draft catalog settings time title userId programs source).plan.courses,
        p.SharedBy catalog s r →
          (r.placeholder catalog).credits ≤ (s.placeholder catalog).credits) :
    r.credits ≤
      (draft catalog settings time title userId programs source).plan.slotCredits r.id := by
  obtain ⟨d, haccounted, hcourses⟩ :=
    draft_accounted catalog settings time title userId programs source
  have hcount := (draft_standing catalog settings time title userId programs source
    (((Draft.order_perm programs).map (·.id)).nodup_iff.1 hids)).represents.slots
      r hr _ _ _ helective.demand_eq
  refine (slotCount_isLeast r.credits hpos).1.trans ?_
  rw [← hcount]
  -- The slots are as many as its own placeholder needs, so it is enough that none is worth less.
  refine le_slotCredits fun p hp hserves => ?_
  obtain ⟨q, hq, heq⟩ := hcourses.symm.exists_mem hp
  have hqworth : q.worth = p.worth := (congrArg PlannedCourse.worth heq :)
  rw [← hqworth]
  have hqserves : q.serves r.id = true :=
    (congrArg (PlannedCourse.serves r.id) heq).trans hserves
  rcases haccounted.worth_of_serves hids hr hq hqserves with
    hown | ⟨hm, s, hs, hshared, hother⟩
  · exact Nat.le_of_eq hown.symm
  · rw [hother]
    exact hworth hm s hs p hp (hshared.of_untimed heq)

/-- In a drafted plan a major has its credits.  A minor has them if no slot that it shares
is worth less than one of its own. -/
theorem draft_credits
    (hids : ((programs.flatMap (·.requirements)).map (·.id)).Nodup)
    (hpos : ∀ r ∈ programs.flatMap (·.requirements), r.Elective catalog →
      0 < (r.placeholder catalog).credits) :
    let plan := (draft catalog settings time title userId programs source).plan
    (∀ r ∈ majorRequirements programs, r.Elective catalog →
      r.credits ≤ plan.slotCredits r.id) ∧
    ∀ m ∈ minorRequirements programs, m.Elective catalog →
      (∀ r ∈ majorRequirements programs, ∀ p ∈ plan.courses, p.SharedBy catalog r m →
        (m.placeholder catalog).credits ≤ (r.placeholder catalog).credits) →
      m.credits ≤ plan.slotCredits m.id := by
  intro plan
  have horder : ((Draft.order programs).map (·.id)).Nodup :=
    ((Draft.order_perm programs).map (·.id)).nodup_iff.2 hids
  have hposOf : ∀ r ∈ Draft.order programs, r.Elective catalog →
      0 < (r.placeholder catalog).credits := fun r hr =>
    hpos r ((Draft.order_perm programs).mem_iff.1 hr)
  constructor
  · intro r hr helective
    have hrorder : r ∈ Draft.order programs := List.mem_append_left _ hr
    refine draft_le_slotCredits _ _ _ _ _ _ _ horder hrorder helective
      (hposOf r hrorder helective) fun hm => ?_
    exact absurd rfl (Draft.ids_apart horder hr hm)
  · intro m hm helective hworth
    have hmorder : m ∈ Draft.order programs := List.mem_append_right _ hm
    exact draft_le_slotCredits _ _ _ _ _ _ _ horder hmorder helective
      (hposOf m hmorder helective) fun _ => hworth

end Drafted

/-! ## Placeholders of two sizes -/

/-- The courses of a catalogue with a small and a large placeholder. -/
def sizes : List Course :=
  [{ code := "DATA 301", credits := 3 }, { code := "DATA 405", credits := 3 },
    { code := "SMALL", credits := 1, isPlaceholder := true },
    { code := "LARGE", credits := 2, isPlaceholder := true }]

/-- A major and a minor that ask for the same credits, each with its own placeholder. -/
def sized (major minor : String) : List Program :=
  [{ id := "major", kind := .major
     requirements :=
       [{ id := "first", credits := 2, year := 1, query := "DATA 301; DATA 405",
          placeholderCode := some major }] },
    { id := "minor", kind := .minor
      requirements :=
        [{ id := "second", credits := 2, year := 1, query := "DATA 301; DATA 405",
           placeholderCode := some minor }] }]

/-- A minor with small slots of its own shares a large one. -/
theorem draft_credits_large :
    let programs := sized "LARGE" "SMALL"
    let plan := (draft (.ofCourses sizes) {} "0" "Sizes" none programs (.ofList [])).plan
    plan.courses.map (fun p => (p.requirementId, p.sharedRequirementId, p.worth))
      = [(some "first", some "second", 2), (some "second", none, 1)] ∧
    (∀ r ∈ majorRequirements programs, r.Elective (.ofCourses sizes) →
      r.credits ≤ plan.slotCredits r.id) ∧
    ∀ m ∈ minorRequirements programs, m.Elective (.ofCourses sizes) →
      m.credits ≤ plan.slotCredits m.id := by
  intro programs plan
  have hids : ((programs.flatMap (·.requirements)).map (·.id)).Nodup := by decide
  have hpos : ∀ r ∈ programs.flatMap (·.requirements), r.Elective (.ofCourses sizes) →
      0 < (r.placeholder (.ofCourses sizes)).credits := by decide +kernel
  have hworth : ∀ m ∈ minorRequirements programs, ∀ r ∈ majorRequirements programs,
      (m.placeholder (.ofCourses sizes)).credits ≤ (r.placeholder (.ofCourses sizes)).credits := by
    decide +kernel
  obtain ⟨hmajors, hminors⟩ :=
    draft_credits (.ofCourses sizes) {} "0" "Sizes" none programs (.ofList []) hids hpos
  refine ⟨by decide +kernel, hmajors, fun m hm helective => hminors m hm helective ?_⟩
  exact fun r hr _ _ _ => hworth m hm r hr

/-- A minor that shares a small slot is left without a credit. -/
theorem draft_credits_short :
    let programs := sized "SMALL" "LARGE"
    let plan := (draft (.ofCourses sizes) {} "0" "Sizes" none programs (.ofList [])).plan
    ((programs.flatMap (·.requirements)).map (·.id)).Nodup ∧
    (∀ r ∈ programs.flatMap (·.requirements), r.Elective (.ofCourses sizes) →
      0 < (r.placeholder (.ofCourses sizes)).credits) ∧
    ∃ m ∈ programs.flatMap (·.requirements), m.Elective (.ofCourses sizes) ∧
      plan.slotCredits m.id < m.credits := by
  decide +kernel

end Plan

end StudyPlan
