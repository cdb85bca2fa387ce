import Mathlib.Data.List.GetD
import StudyPlan.Proofs.Numbering
import StudyPlan.Proofs.Resolving
import StudyPlan.Proofs.Retiming

/-!
# What a draft does

A draft goes through the requirements of the programs, and for each of them it takes
steps of three kinds (`Draft.Step`).  It plans a course of the requirement's pool that
no planned course shows.  It plans a slot with the requirement's placeholder and pool.
Or it shares a slot, which has the requirement's pool from then on.

How many of the steps find a slot does not depend on what is drawn: they are as many as
the requirement demands (`addMajor_served`, `addMinor_served`).  A draw only tells which
of the slots with the smallest pool is shared, and it is always the number of a slot,
because the value that is drawn is below their count (`shareOne?_split`).

In the end the timetable moves the courses about.  What a drafted plan has is therefore
shown by three cases: the plan without courses, one requirement, and courses in other
terms (`draft_induct`).  Whether the timetable has a term to move them to is another matter:
the plan has the terms that were asked for, in whole years, if these fit in their word
(`draft_wellTimed_iff`).
-/

namespace StudyPlan

/-- How many slots are demanded. -/
def Demand.count : Demand → Nat
  | .whole _ => 0
  | .slots _ _ count => count

namespace Draft

variable {catalog : Catalog} {r : Requirement} {start plan mid next : Plan} {n k : Nat}

/-! ## Steps -/

/-- One step of a draft for a requirement that came to a plan, and how many slots it
finds. -/
inductive Step (catalog : Catalog) (r : Requirement) (start plan : Plan) : Nat → Plan → Prop
  /-- A course of the pool is planned that no planned course shows. -/
  | course {c : Course} (pooled : c ∈ Query.pool catalog r.query)
      (new : ∀ p ∈ plan.courses, p.code ≠ c.code) :
      Step catalog r start plan 0 (plan.push (.required c (some r.id)))
  /-- A slot is planned. -/
  | slot : Step catalog r start plan 1
      (plan.push (.elective (r.placeholder catalog) (Query.pool catalog r.query) (some r.id)))
  /-- A slot of an earlier requirement is shared that is not shared yet. -/
  | share {before after : List PlannedCourse} {slot : PlannedCourse}
      (split : plan.courses = before ++ slot :: after) (pooled : slot.pool ≠ [])
      (unshared : slot.sharedRequirementId = none)
      (earlier : slot.requirementId ∈ start.courses.map (·.requirementId)) :
      Step catalog r start plan 1 { plan with
        courses := before ++
          { slot with
            pool := Query.pool catalog r.query
            sharedRequirementId := some r.id } :: after }

/-- The steps of a draft for a requirement, and how many slots they find. -/
inductive Steps (catalog : Catalog) (r : Requirement) (start : Plan) : Nat → Plan → Prop
  | refl : Steps catalog r start 0 start
  | tail {n k : Nat} {mid next : Plan} (init : Steps catalog r start n mid)
      (last : Step catalog r start mid k next) : Steps catalog r start (n + k) next

theorem Step.counted (h : Step catalog r start plan k next) (hids : plan.Counted) :
    next.Counted := by
  cases h with
  | course _ _ => exact hids.pushNew rfl
  | slot => exact hids.pushNew rfl
  | share split _ _ _ =>
    refine hids.of_perm ?_ rfl
    rw [split, List.map_append, List.map_append, List.map_cons, List.map_cons]

theorem Step.numTerms_eq (h : Step catalog r start plan k next) :
    next.numTerms = plan.numTerms := by
  cases h with
  | course _ _ => rfl
  | slot => rfl
  | share _ _ _ _ => rfl

/-- A step gives out a number for each course that it plans. -/
theorem Step.nextId_eq (h : Step catalog r start plan k next)
    (hnext : plan.nextId = plan.courses.length + 1) :
    next.nextId = next.courses.length + 1 := by
  have hpush : ∀ {p : PlannedCourse}, p.id = 0 →
      (plan.push p).nextId = (plan.push p).courses.length + 1 := fun {p} hzero => by
    obtain ⟨hcourses, hnew⟩ := plan.push_new hzero
    rw [hcourses, hnew, hnext, List.length_append, List.length_singleton]
  cases h with
  | course _ _ => exact hpush rfl
  | slot => exact hpush rfl
  | share split _ _ _ => simpa [split] using hnext

/-- A step takes no course out of the plan. -/
theorem Step.shows (h : Step catalog r start plan k next) {code : String}
    (hcode : ∃ p ∈ plan.courses, p.code = code) : ∃ p ∈ next.courses, p.code = code := by
  refine List.mem_map.1 (?_ : code ∈ next.courses.map (·.course.code))
  have hcode : code ∈ plan.courses.map (·.course.code) := List.mem_map.2 hcode
  cases h with
  | course _ _ =>
    rw [Plan.push, List.map_append]
    exact List.mem_append_left _ hcode
  | slot =>
    rw [Plan.push, List.map_append]
    exact List.mem_append_left _ hcode
  | share split _ _ _ =>
    rw [split, List.map_append, List.map_cons] at hcode
    rw [List.map_append, List.map_cons]
    exact hcode

/-- What is shown of each planned course. -/
theorem Step.forall_mem {P : PlannedCourse → Prop} (h : Step catalog r start plan k next)
    (hplan : ∀ p ∈ plan.courses, P p)
    (required : ∀ c ∈ Query.pool catalog r.query, ∀ id,
      P { PlannedCourse.required c (some r.id) with id })
    (elective : ∀ id,
      P { PlannedCourse.elective (r.placeholder catalog) (Query.pool catalog r.query)
            (some r.id) with id })
    (shared : ∀ slot, P slot → slot.pool ≠ [] →
      P { slot with pool := Query.pool catalog r.query, sharedRequirementId := some r.id }) :
    ∀ p ∈ next.courses, P p := by
  cases h with
  | course pooled _ => exact Plan.forall_mem_push hplan (required _ pooled _)
  | slot => exact Plan.forall_mem_push hplan (elective _)
  | share split pooled _ _ =>
    rw [split] at hplan
    exact Plan.forall_mem_replace hplan fun hslot => shared _ hslot pooled

/-- What every step keeps, all of them keep. -/
theorem Steps.induct {P : Plan → Prop} (h : Steps catalog r plan n next) (hids : plan.Counted)
    (start : P plan)
    (step : ∀ {k mid next}, mid.Counted → P mid → Step catalog r plan mid k next → P next) :
    next.Counted ∧ P next := by
  induction h with
  | refl => exact ⟨hids, start⟩
  | tail _ last ih => exact ⟨last.counted ih.1, step ih.1 ih.2 last⟩

theorem Steps.numTerms_eq (h : Steps catalog r plan n next) : next.numTerms = plan.numTerms := by
  induction h with
  | refl => rfl
  | tail _ last ih => exact last.numTerms_eq.trans ih

theorem Steps.nextId_eq (h : Steps catalog r plan n next)
    (hnext : plan.nextId = plan.courses.length + 1) :
    next.nextId = next.courses.length + 1 := by
  induction h with
  | refl => exact hnext
  | tail _ last ih => exact last.nextId_eq ih

theorem Steps.counted (h : Steps catalog r plan n next) (hids : plan.Counted) :
    next.Counted :=
  (h.induct hids (P := fun _ => True) trivial fun _ _ _ => trivial).1

theorem Steps.shows (h : Steps catalog r plan n next) {code : String}
    (hcode : ∃ p ∈ plan.courses, p.code = code) : ∃ p ∈ next.courses, p.code = code := by
  induction h with
  | refl => exact hcode
  | tail _ last ih => exact last.shows ih

/-! ## Whole pools -/

theorem pushMissing_cons (requirementId : String) (plan : Plan) (c : Course)
    (courses : List Course) :
    pushMissing requirementId plan (c :: courses)
      = pushMissing requirementId
          (if plan.holdsCode c.code none then plan
            else plan.push (.required c (some requirementId))) courses := rfl

theorem holdsCode_none_iff {code : String} :
    plan.holdsCode code none = true ↔ ∃ p ∈ plan.courses, p.code = code := by
  simp [Plan.holdsCode, List.any_eq_true]

theorem pushMissing_steps {courses : List Course} :
    ∀ {mid : Plan}, (∀ c ∈ courses, c ∈ Query.pool catalog r.query) →
      Steps catalog r plan n mid → Steps catalog r plan n (pushMissing r.id mid courses) := by
  induction courses with
  | nil => exact fun _ h => h
  | cons c courses ih =>
    intro mid hpool h
    rw [pushMissing_cons]
    refine ih (fun d hd => hpool d (List.mem_cons_of_mem _ hd)) ?_
    split
    · exact h
    next hnew =>
      refine h.tail (.course (hpool c (List.mem_cons_self ..)) fun p hp hcode => hnew ?_)
      exact holdsCode_none_iff.2 ⟨p, hp, hcode⟩

theorem pushMissing_shows {courses : List Course} :
    ∀ {plan : Plan}, (∀ c ∈ courses, c ∈ Query.pool catalog r.query) →
      ∀ c ∈ courses, ∃ p ∈ (pushMissing r.id plan courses).courses, p.code = c.code := by
  induction courses with
  | nil => exact fun _ _ hc => nomatch hc
  | cons c courses ih =>
    intro plan hpool d hd
    have hrest : ∀ e ∈ courses, e ∈ Query.pool catalog r.query := fun e he =>
      hpool e (List.mem_cons_of_mem _ he)
    rw [pushMissing_cons]
    cases List.mem_cons.1 hd with
    | inl hfirst =>
      subst hfirst
      refine (pushMissing_steps hrest Steps.refl).shows ?_
      split
      next hheld => exact holdsCode_none_iff.1 hheld
      · exact ⟨_, List.mem_append_right _ (List.mem_singleton.2 rfl), rfl⟩
    | inr hmem => exact ih hrest d hmem

/-! ## Slots -/

theorem pushAll_steps (count : Nat) :
    ∀ {n : Nat} {mid : Plan}, Steps catalog r plan n mid →
      Steps catalog r plan (n + count) (mid.pushAll (Demand.planned r.id
        (.slots (r.placeholder catalog) (Query.pool catalog r.query) count))) := by
  induction count with
  | zero => exact fun h => h
  | succ count ih =>
    intro n mid h
    have hlater := ih (h.tail .slot)
    rwa [Nat.add_right_comm] at hlater

theorem canShare_iff {sharable : List Nat} {pool : List Course} {p : PlannedCourse} :
    canShare sharable pool p = true ↔
      p.id ∈ sharable ∧ p.sharedRequirementId = none ∧
        ∀ c ∈ pool, ∃ q ∈ p.pool, q.code = c.code := by
  simp [canShare, and_assoc]

/-- A slot that is tied with others is one that may serve the pool, and none has a smaller
pool. -/
theorem mem_tightest {d : Draft} {pool : List Course} {id : Nat} (h : id ∈ d.tightest pool) :
    ∃ slot ∈ d.plan.courses, slot.id = id ∧ canShare d.sharable pool slot = true ∧
      ∀ p ∈ d.plan.courses, canShare d.sharable pool p = true →
        slot.pool.length ≤ p.pool.length := by
  unfold tightest at h
  simp only at h
  split at h
  · cases h
  next least hleast =>
    obtain ⟨slot, hslot, hid⟩ := List.mem_map.1 h
    obtain ⟨hfits, hlength⟩ := List.mem_filter.1 hslot
    obtain ⟨hmem, hshare⟩ := List.mem_filter.1 hfits
    refine ⟨slot, hmem, hid, hshare, fun p hp hpshare => ?_⟩
    rw [beq_iff_eq.1 hlength]
    exact (List.min?_eq_some_iff.1 hleast).2 _
      (List.mem_map_of_mem (List.mem_filter.2 ⟨hp, hpshare⟩))

theorem tightest_eq_nil {d : Draft} {pool : List Course} (h : d.tightest pool = []) :
    ∀ p ∈ d.plan.courses, canShare d.sharable pool p = false := by
  intro p hp
  rw [← Bool.not_eq_true]
  intro hshare
  have hfits : p.pool.length ∈
      (d.plan.courses.filter (canShare d.sharable pool)).map (·.pool.length) :=
    List.mem_map_of_mem (List.mem_filter.2 ⟨hp, hshare⟩)
  unfold tightest at h
  simp only at h
  split at h
  next hnone =>
    rw [List.min?_eq_none_iff.1 hnone] at hfits
    cases hfits
  next least hleast =>
    obtain ⟨slot, hslot, hlength⟩ := List.mem_map.1 (List.min?_eq_some_iff.1 hleast).1
    have htied : slot.id ∈ (List.filter (·.pool.length == least)
        (d.plan.courses.filter (canShare d.sharable pool))).map (·.id) :=
      List.mem_map_of_mem (List.mem_filter.2 ⟨hslot, beq_iff_eq.2 hlength⟩)
    rw [h] at htied
    cases htied

theorem canShare_inv {sharable : List Nat} {pool : List Course} {slot : PlannedCourse}
    (hpool : pool ≠ []) (h : canShare sharable pool slot = true) :
    slot.pool ≠ [] ∧ slot.sharedRequirementId = none := by
  obtain ⟨-, hunshared, hcovers⟩ := canShare_iff.1 h
  obtain ⟨c, hc⟩ := List.exists_mem_of_ne_nil pool hpool
  obtain ⟨q, hq, -⟩ := hcovers c hc
  exact ⟨List.ne_nil_of_mem hq, hunshared⟩

/-- A draw is below the number of slots that it chooses from, so it chooses one. -/
theorem shareOne?_split {d shared : Draft} {pool : List Course} (hids : d.plan.Counted)
    (h : d.shareOne? r.id pool = some shared) :
    ∃ before slot after source, d.plan.courses = before ++ slot :: after ∧
      canShare d.sharable pool slot = true ∧
      (∀ p ∈ d.plan.courses, canShare d.sharable pool p = true →
        slot.pool.length ≤ p.pool.length) ∧
      shared = ⟨{ d.plan with
        courses := before ++ { slot with pool, sharedRequirementId := some r.id } :: after },
        d.sharable.filter (· != slot.id), source⟩ := by
  unfold shareOne? at h
  simp only at h
  split at h
  · cases h
  next htied =>
    obtain rfl := Option.some.inj h
    have hlt := d.source.below64_lt
      (List.length_pos_iff.2 fun hnil => htied (List.isEmpty_iff.2 hnil))
    rw [List.getD_eq_getElem _ 0 hlt]
    obtain ⟨slot, hslot, hid, hshare, hleast⟩ := mem_tightest (List.getElem_mem hlt)
    rw [← hid]
    obtain ⟨-, before, after, hsplit, hupdate⟩ := Plan.updateFirst_split (hids.find?_of_mem hslot)
    refine ⟨before, slot, after, (d.source.below64 (d.tightest pool).length).2, hsplit, hshare,
      hleast, ?_⟩
    simp only [Plan.update, hupdate]

theorem shareOne?_none {d : Draft} {pool : List Course} (h : d.shareOne? r.id pool = none) :
    ∀ p ∈ d.plan.courses, canShare d.sharable pool p = false := by
  unfold shareOne? at h
  simp only at h
  split at h
  next htied => exact tightest_eq_nil (List.isEmpty_iff.1 htied)
  · cases h

/-- Slots that are shared and slots that are left to plan are together those that are
needed. -/
theorem shareSome_steps (hids : plan.Counted) (hpool : Query.pool catalog r.query ≠ []) :
    ∀ (count : Nat) {n : Nat} {d : Draft}, Steps catalog r plan n d.plan →
      d.plan.courses.map (·.requirementId) = plan.courses.map (·.requirementId) →
      ∃ found, Steps catalog r plan (n + found)
          (shareSome r.id (Query.pool catalog r.query) count d).1.plan ∧
        found + (shareSome r.id (Query.pool catalog r.query) count d).2 = count
  | 0, _, _, h, _ => ⟨0, h, rfl⟩
  | count + 1, n, d, h, hold => by
    unfold shareSome
    cases hone : d.shareOne? r.id (Query.pool catalog r.query) with
    | some shared =>
      obtain ⟨before, slot, after, source, hsplit, hshare, -, hdraft⟩ :=
        shareOne?_split (h.counted hids) hone
      obtain ⟨hpooled, hunshared⟩ := canShare_inv hpool hshare
      have hplan := congrArg Draft.plan hdraft
      -- Sharing plans nothing, so the requirements with a slot are those from the start.
      have hearlier : slot.requirementId ∈ plan.courses.map (·.requirementId) := by
        rw [← hold, hsplit]
        exact List.mem_map_of_mem (List.perm_middle.mem_iff.2 (List.mem_cons_self ..))
      have hstep : Step catalog r plan d.plan 1 shared.plan :=
        hplan ▸ .share hsplit hpooled hunshared hearlier
      have hsame : shared.plan.courses.map (·.requirementId)
          = plan.courses.map (·.requirementId) := by
        rw [← hold, hsplit, hplan, List.map_append, List.map_append, List.map_cons, List.map_cons]
      obtain ⟨found, hsteps, hcount⟩ := shareSome_steps hids hpool count (h.tail hstep) hsame
      refine ⟨found + 1, ?_, (Nat.add_right_comm ..).trans (congrArg (· + 1) hcount)⟩
      rwa [Nat.add_right_comm n 1 found] at hsteps
    | none =>
      obtain ⟨found, hsteps, hcount⟩ := shareSome_steps hids hpool count h hold
      exact ⟨found, hsteps, congrArg (· + 1) hcount⟩

/-! ## Requirements -/

/-- A requirement has what it demands. -/
structure Served (catalog : Catalog) (r : Requirement) (plan next : Plan) : Prop where
  steps : Steps catalog r plan (r.demand catalog).count next
  whole : ∀ {courses}, r.demand catalog = .whole courses →
    ∀ c ∈ courses, ∃ p ∈ next.courses, p.code = c.code

theorem served_whole (h : r.demand catalog = .whole (Query.pool catalog r.query)) :
    Served catalog r plan (pushMissing r.id plan (Query.pool catalog r.query)) where
  steps := by
    rw [h]
    exact pushMissing_steps (fun _ hc => hc) .refl
  whole hdemand := by
    obtain rfl := Demand.whole.inj (h.symm.trans hdemand)
    exact pushMissing_shows fun _ hc => hc

theorem addMajor_served (d : Draft) : Served catalog r d.plan (addMajor catalog d r).plan := by
  unfold addMajor
  cases r.demand_cases catalog with
  | inl hwhole =>
    simp only [hwhole]
    exact served_whole hwhole
  | inr hslots =>
    obtain ⟨-, hslots⟩ := hslots
    have hsteps := pushAll_steps (slotCount r.credits (r.placeholder catalog).credits)
      (.refl : Steps catalog r d.plan 0 d.plan)
    rw [Nat.zero_add] at hsteps
    constructor
    · rw [hslots]
      exact hsteps
    · intro courses hwhole
      cases hslots.symm.trans hwhole

theorem addMinor_served {d : Draft} (hids : d.plan.Counted) :
    Served catalog r d.plan (addMinor catalog d r).plan := by
  unfold addMinor
  cases r.demand_cases catalog with
  | inl hwhole =>
    simp only [hwhole]
    exact served_whole hwhole
  | inr hslots =>
    obtain ⟨hpool, hslots⟩ := hslots
    obtain ⟨found, hsteps, hcount⟩ := shareSome_steps hids hpool
      (slotCount r.credits (r.placeholder catalog).credits) (d := d) .refl rfl
    have hall := pushAll_steps
      (shareSome r.id (Query.pool catalog r.query)
        (slotCount r.credits (r.placeholder catalog).credits) d).2 hsteps
    rw [Nat.zero_add, hcount] at hall
    constructor
    · rw [hslots]
      exact hall
    · intro courses hwhole
      cases hslots.symm.trans hwhole

/-! ## Programs -/

/-- The requirements of some programs in the order of a draft. -/
def order (programs : List Program) : List Requirement :=
  (programs.filter (!·.isMinor)).flatMap (·.requirements) ++
    (programs.filter (·.isMinor)).flatMap (·.requirements)

theorem order_perm (programs : List Program) :
    (order programs).Perm (programs.flatMap (·.requirements)) := by
  unfold order
  rw [← List.flatMap_append]
  exact (List.perm_append_comm.trans (List.filter_append_perm ..)).flatMap_right _

/-- What each requirement keeps, all of them keep. -/
theorem foldl_induct {P : List Requirement → Plan → Prop} {add : Draft → Requirement → Draft}
    (served : ∀ {d r}, d.plan.Counted → Served catalog r d.plan (add d r).plan)
    (step : ∀ {done r plan next}, plan.Counted → P done plan → Served catalog r plan next →
      P (done ++ [r]) next)
    (rs : List Requirement) :
    ∀ {done : List Requirement} {d : Draft}, d.plan.Counted → P done d.plan →
      (rs.foldl add d).plan.Counted ∧ P (done ++ rs) (rs.foldl add d).plan := by
  induction rs with
  | nil =>
    intro done d hids h
    rw [List.append_nil]
    exact ⟨hids, h⟩
  | cons r rs ih =>
    intro done d hids h
    have hone := served (r := r) hids
    have hrest := ih (hone.steps.counted hids) (step hids h hone)
    rwa [List.append_assoc] at hrest

theorem addPrograms_induct (catalog : Catalog) {P : List Requirement → Plan → Prop} {d : Draft}
    (hids : d.plan.Counted) (start : P [] d.plan)
    (step : ∀ {done r plan next}, plan.Counted → P done plan → Served catalog r plan next →
      P (done ++ [r]) next)
    (programs : List Program) :
    (addPrograms catalog programs d).plan.Counted ∧
      P (order programs) (addPrograms catalog programs d).plan := by
  have hmajors := foldl_induct (fun _ => addMajor_served _) step
    ((programs.filter (!·.isMinor)).flatMap (·.requirements)) hids start
  exact foldl_induct addMinor_served step _ hmajors.1 hmajors.2

end Draft

/-! ## Plans -/

namespace Plan

/-- What the plan without courses has, and each requirement and the timetable keep, a
drafted plan has. -/
theorem draft_induct (catalog : Catalog) {P : List Requirement → Plan → Prop}
    (start : ∀ {plan : Plan}, plan.courses = [] → P [] plan)
    (step : ∀ {done r plan next}, plan.Counted → P done plan →
      Draft.Served catalog r plan next → P (done ++ [r]) next)
    (retime : ∀ {done plan next}, Retimed plan.courses next.courses → P done plan → P done next)
    (settings : Settings) (time title : String) (userId : Option String)
    (programs : List Program) (source : Chance.Source) :
    let plan := (draft catalog settings time title userId programs source).plan
    plan.Counted ∧ P (Draft.order programs) plan := by
  intro plan
  obtain ⟨hids, hkeep⟩ := Draft.addPrograms_induct catalog (P := P)
    (d := ⟨{ Plan.empty (newId time source).1 title settings.defaultTerms with userId }, [],
      (newId time source).2⟩)
    (counted_empty ..) (start rfl) step programs
  have hretimed : Retimed _ plan.courses := Timetable.schedule_retimed ..
  exact ⟨hids.of_perm (hretimed.map fun _ => rfl) rfl, retime hretimed hkeep⟩

/-- A draft has the terms that were asked for, in whole years, and it has given out as many
numbers as it has courses. -/
theorem draft_counts (catalog : Catalog) (settings : Settings) (time title : String)
    (userId : Option String) (programs : List Program) (source : Chance.Source) :
    let plan := (draft catalog settings time title userId programs source).plan
    plan.numTerms = Term.roundUp settings.defaultTerms ∧
      plan.nextId = plan.courses.length + 1 := by
  intro plan
  obtain ⟨-, hterms, hnext⟩ := Draft.addPrograms_induct catalog
    (P := fun _ plan => plan.numTerms = Term.roundUp settings.defaultTerms ∧
      plan.nextId = plan.courses.length + 1)
    (d := ⟨{ Plan.empty (newId time source).1 title settings.defaultTerms with userId }, [],
      (newId time source).2⟩)
    (counted_empty ..) ⟨rfl, rfl⟩
    (fun _ h hserved => ⟨hserved.steps.numTerms_eq.trans h.1, hserved.steps.nextId_eq h.2⟩)
    programs
  have hretimed : Retimed _ plan.courses := Timetable.schedule_retimed ..
  exact ⟨hterms, hnext.trans (congrArg (· + 1) hretimed.length_eq)⟩

/-- A draft is well timed if the years that it was asked for fit. -/
theorem draft_wellTimed (catalog : Catalog) {settings : Settings}
    (hfits : Term.Fits settings.defaultTerms) (time title : String) (userId : Option String)
    (programs : List Program) (source : Chance.Source) :
    (draft catalog settings time title userId programs source).plan.WellTimed := by
  have hterms := (draft_counts catalog settings time title userId programs source).1
  have hpos := hterms.symm ▸ Term.roundUp_pos hfits
  have hyears := hterms.symm ▸ Term.roundUp_mod settings.defaultTerms
  refine ⟨hpos, hyears, ?_⟩
  -- The timetable has as many terms as the plan, which has a year at least.
  have hfour : termsPerYear ≤ _ := Nat.le_of_dvd hpos (Nat.dvd_of_mod_eq_zero hyears)
  have ht : (Timetable.ofSizes _ settings.maxPerTerm).numTerms = _ := Nat.max_eq_left hfour
  have hwithin := Timetable.schedule_within (ht.symm ▸ hpos)
  rw [ht] at hwithin
  exact hwithin _ _ _ _

/-- A draft for more terms than fit in whole years has none. -/
theorem draft_wellTimed_iff (catalog : Catalog) {settings : Settings}
    (hsize : settings.defaultTerms < UInt32.size) (time title : String) (userId : Option String)
    (programs : List Program) (source : Chance.Source) :
    (draft catalog settings time title userId programs source).plan.WellTimed ↔
      Term.Fits settings.defaultTerms := by
  refine ⟨fun h => ?_, fun hfits => draft_wellTimed catalog hfits ..⟩
  by_contra hfits
  have hpos := h.pos
  rw [(draft_counts catalog settings time title userId programs source).1,
    Term.roundUp_eq_zero hsize hfits] at hpos
  exact Nat.lt_irrefl 0 hpos

/-! ## A draft -/

/-- The courses of a small catalogue. -/
def shelf : List Course :=
  [{ code := "math100", credits := 3 }, { code := "DATA 301", credits := 3 },
    { code := "DATA 405", credits := 3 }, { code := "PHIL 120", credits := 3 }]

/-- A major that demands a course and two slots, and a minor that demands a slot. -/
def majorAndMinor : List Program :=
  [{ id := "minor", name := "Data", kind := .minor
     requirements :=
       [{ id := "data", credits := 3, year := -1, query := "DATA 301; DATA 405" }] },
    { id := "major", name := "Mathematics", kind := .major
      requirements :=
        [{ id := "first", credits := 3, year := 1, query := "MATH 100" },
          { id := "later", credits := 6, year := 3, query := "ELEC" }] }]

/-- A plan for both. -/
def sketch : Plan :=
  (draft (.ofCourses shelf) {} "0" "Sketch" none majorAndMinor (.ofList [])).plan

/-- The minor shares a slot of the major. -/
example :
    sketch.courses.map (fun p => (p.id, p.term, p.code, p.sharedRequirementId))
      = [(1, 1, "MATH 100", none), (2, 9, "ELEC", some "data"), (3, 9, "ELEC", none)] := by
  decide +kernel

end Plan

end StudyPlan
