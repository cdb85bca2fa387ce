import StudyPlan.Proofs.Drafting

/-!
# Shared slots

A minor is served by slots of the majors as far as they go.  What becomes of a planned
course is told by how it was made (`Made`): it is a required course, a slot of a major
that may still be shared, a slot of a major that a minor shares, or a slot of a minor.

*Both pools.*  A slot of a major keeps the pool of its requirement until it is shared.
A minor may share it only if the pool covers its own, and that becomes the pool of the
slot.  A slot is shared once, for its number is then struck off.  So the pool of a
shared slot is the one of the minor's requirement, and its courses are courses of the
major's requirement too.

*Nothing better is left.*  When a slot is shared, the pools of the slots that may serve
as well are no smaller; and when a new slot is planned, there is none that may serve.
Only slots are struck off while the minors have their turns, so what is said of the free
slots stays true (`Made.mono`).

The requirements have their turns one after another, and each keeps account of all planned
courses (`Accounted.addMajor`, `Accounted.addMinor`).  In the end the timetable moves the
courses about, which changes none of this (`Plan.draft_accounted`).
-/

namespace StudyPlan

/-! ## Requirements -/

/-- Every course of a pool is in another one, by its code. -/
def Covers (pool wanted : List Course) : Prop := ∀ c ∈ wanted, ∃ d ∈ pool, d.code = c.code

/-- A requirement that demands slots. -/
def Requirement.Elective (catalog : Catalog) (r : Requirement) : Prop :=
  ∃ placeholder pool count, r.demand catalog = .slots placeholder pool count

theorem Requirement.not_elective {catalog : Catalog} {r : Requirement} {courses : List Course}
    (h : r.demand catalog = .whole courses) : ¬ r.Elective catalog := by
  rintro ⟨placeholder, pool, count, hslots⟩
  cases h.symm.trans hslots

instance (catalog : Catalog) (r : Requirement) : Decidable (r.Elective catalog) :=
  match h : r.demand catalog with
  | .whole _ => isFalse (Requirement.not_elective h)
  | .slots _ _ _ => isTrue ⟨_, _, _, h⟩

theorem Requirement.Elective.demand_eq {catalog : Catalog} {r : Requirement}
    (h : r.Elective catalog) :
    r.demand catalog = .slots (r.placeholder catalog) (Query.pool catalog r.query)
      (slotCount r.credits (r.placeholder catalog).credits) := by
  rcases r.demand_cases catalog with hwhole | ⟨-, hslots⟩
  · exact absurd h (not_elective hwhole)
  · exact hslots

/-- The requirements of majors and honours programs. -/
def majorRequirements (programs : List Program) : List Requirement :=
  (programs.filter (!·.isMinor)).flatMap (·.requirements)

/-- The requirements of minors. -/
def minorRequirements (programs : List Program) : List Requirement :=
  (programs.filter (·.isMinor)).flatMap (·.requirements)

/-- A slot that was planned for a requirement.  Its pool is left open. -/
structure PlannedCourse.SlotOf (catalog : Catalog) (r : Requirement) (p : PlannedCourse) :
    Prop where
  demanded : r.Elective catalog
  elective : p.isElective = true
  asked : p.requirementId = some r.id
  placeholder : p.placeholder = some (r.placeholder catalog)

theorem PlannedCourse.elective_pool (placeholder : Course) (pool : List Course)
    (requirementId : Option String) (id : Nat) :
    ({ elective placeholder pool requirementId with id } : PlannedCourse).pool = pool := rfl

theorem PlannedCourse.slotOf_elective {catalog : Catalog} {r : Requirement}
    (h : r.Elective catalog) (pool : List Course) (id : Nat) :
    SlotOf catalog r { elective (r.placeholder catalog) pool (some r.id) with id } :=
  ⟨h, rfl, rfl, rfl⟩

theorem PlannedCourse.SlotOf.of_untimed {catalog : Catalog} {r : Requirement}
    {p q : PlannedCourse} (h : p.SlotOf catalog r) (heq : p.untimed = q.untimed) :
    q.SlotOf catalog r where
  demanded := h.demanded
  elective := (congrArg isElective heq).symm.trans h.elective
  asked := (congrArg requirementId heq).symm.trans h.asked
  placeholder := (congrArg PlannedCourse.placeholder heq).symm.trans h.placeholder

/-- A slot of one requirement that another one shares.  Every course of its pool counts for
both of them. -/
structure PlannedCourse.SharedBy (catalog : Catalog) (r m : Requirement) (p : PlannedCourse) :
    Prop where
  slot : p.SlotOf catalog r
  demanded : m.Elective catalog
  shared : p.sharedRequirementId = some m.id
  pool : p.pool = Query.pool catalog m.query
  covers : Covers (Query.pool catalog r.query) p.pool

theorem PlannedCourse.SharedBy.of_untimed {catalog : Catalog} {r m : Requirement}
    {p q : PlannedCourse} (h : p.SharedBy catalog r m) (heq : p.untimed = q.untimed) :
    q.SharedBy catalog r m where
  slot := h.slot.of_untimed heq
  demanded := h.demanded
  shared := (congrArg sharedRequirementId heq).symm.trans h.shared
  pool := (congrArg PlannedCourse.pool heq).symm.trans h.pool
  covers := (congrArg PlannedCourse.pool heq) ▸ h.covers

namespace Draft

variable {catalog : Catalog} {majors minors : List Requirement} {r m : Requirement}
  {free free' : PlannedCourse → Prop} {d : Draft} {p slot : PlannedCourse}

/-- No id is both of a major's requirement and of a minor's. -/
theorem ids_apart (hids : ((majors ++ minors).map (·.id)).Nodup) (hr : r ∈ majors)
    (hm : m ∈ minors) : some r.id ≠ some m.id := by
  intro hid
  rw [List.map_append] at hids
  refine List.disjoint_of_nodup_append hids (List.mem_map_of_mem hr) ?_
  rw [Option.some.inj hid]
  exact List.mem_map_of_mem hm

theorem eq_of_id (hids : ((majors ++ minors).map (·.id)).Nodup) (hr : r ∈ majors ++ minors)
    (hm : m ∈ minors) (hid : some r.id = some m.id) : r = m :=
  List.inj_on_of_nodup_map hids hr (List.mem_append_right _ hm) (Option.some.inj hid)

/-! ## How a planned course was made -/

/-- How a planned course was made, where some slots may still be shared. -/
inductive Made (catalog : Catalog) (majors minors : List Requirement)
    (free : PlannedCourse → Prop) (p : PlannedCourse) : Prop
  /-- It is a required course. -/
  | required {r : Requirement} (given : r ∈ majors ++ minors) (whole : ¬ r.Elective catalog)
      (asked : p.requirementId = some r.id) (fixed : p.isElective = false)
      (unshared : p.sharedRequirementId = none) (taken : ¬ free p)
  /-- It is a slot of a major that may still be shared. -/
  | own {r : Requirement} (major : r ∈ majors) (slot : p.SlotOf catalog r)
      (unshared : p.sharedRequirementId = none) (pool : p.pool = Query.pool catalog r.query)
      (free : free p)
  /-- It is a slot of a major that a minor shares, and no free slot that covers the
  minor's pool had a smaller pool. -/
  | shared {r m : Requirement} (major : r ∈ majors) (minor : m ∈ minors)
      (slot : p.SlotOf catalog r) (demanded : m.Elective catalog)
      (shared : p.sharedRequirementId = some m.id)
      (pool : p.pool = Query.pool catalog m.query)
      (covers : Covers (Query.pool catalog r.query) (Query.pool catalog m.query))
      (least : ∀ q, free q → Covers q.pool (Query.pool catalog m.query) →
        (Query.pool catalog r.query).length ≤ q.pool.length)
      (taken : ¬ free p)
  /-- It is a slot of a minor, and no free slot covers its pool. -/
  | fresh {m : Requirement} (minor : m ∈ minors) (slot : p.SlotOf catalog m)
      (unshared : p.sharedRequirementId = none) (pool : p.pool = Query.pool catalog m.query)
      (none : ∀ q, free q → ¬ Covers q.pool (Query.pool catalog m.query))
      (taken : ¬ free p)

/-- What is known of a planned course stays true while slots are struck off, unless it is
struck off itself. -/
theorem Made.mono (h : Made catalog majors minors free p) (hfree : ∀ q, free' q → free q)
    (hp : free p → free' p) : Made catalog majors minors free' p := by
  cases h with
  | required given whole asked fixed unshared taken =>
    exact .required given whole asked fixed unshared fun hf => taken (hfree p hf)
  | own major slot unshared pool hf => exact .own major slot unshared pool (hp hf)
  | shared major minor slot demanded shared pool covers least taken =>
    exact .shared major minor slot demanded shared pool covers (fun q hq => least q (hfree q hq))
      fun hf => taken (hfree p hf)
  | fresh minor slot unshared pool none taken =>
    exact .fresh minor slot unshared pool (fun q hq => none q (hfree q hq))
      fun hf => taken (hfree p hf)

/-- Before the minors have their turns, a planned course is a required one or a slot that
may be shared. -/
theorem Made.of_nil (h : Made catalog majors [] free p) (hfree : free' p ↔ free p) :
    Made catalog majors [] free' p := by
  cases h with
  | required given whole asked fixed unshared taken =>
    exact .required given whole asked fixed unshared fun hf => taken (hfree.1 hf)
  | own major slot unshared pool hf => exact .own major slot unshared pool (hfree.2 hf)
  | shared _ minor => cases minor
  | fresh minor => cases minor

theorem Made.with_minors (h : Made catalog majors [] free p) (minors : List Requirement) :
    Made catalog majors minors free p := by
  cases h with
  | required given whole asked fixed unshared taken =>
    rw [List.append_nil] at given
    exact .required (List.mem_append_left _ given) whole asked fixed unshared taken
  | own major slot unshared pool hf => exact .own major slot unshared pool hf
  | shared _ minor => cases minor
  | fresh minor => cases minor

/-- A slot that may still be shared is the major's own, as it was planned. -/
theorem Made.own_of_free (h : Made catalog majors minors free p) (hfree : free p) :
    p.sharedRequirementId = none ∧ ∃ r ∈ majors, p.SlotOf catalog r ∧
      p.pool = Query.pool catalog r.query := by
  cases h with
  | required _ _ _ _ _ taken => exact absurd hfree taken
  | own major slot unshared pool _ => exact ⟨unshared, _, major, slot, pool⟩
  | shared _ _ _ _ _ _ _ _ taken => exact absurd hfree taken
  | fresh _ _ _ _ _ taken => exact absurd hfree taken

/-- A planned course of a draft whose number is not struck off. -/
def Free (d : Draft) (p : PlannedCourse) : Prop := p ∈ d.plan.courses ∧ p.id ∈ d.sharable

/-- Every planned course of a draft is accounted for. -/
structure Accounted (catalog : Catalog) (majors minors : List Requirement) (d : Draft) :
    Prop where
  counted : d.plan.Counted
  given : ∀ id ∈ d.sharable, id < d.plan.nextId
  made : ∀ p ∈ d.plan.courses, Made catalog majors minors d.Free p

theorem Accounted.canShare_iff (h : Accounted catalog majors minors d) {pool : List Course}
    (hp : p ∈ d.plan.courses) :
    canShare d.sharable pool p = true ↔ d.Free p ∧ Covers p.pool pool := by
  rw [Draft.canShare_iff]
  constructor
  · rintro ⟨hid, -, hcovers⟩
    exact ⟨⟨hp, hid⟩, hcovers⟩
  · rintro ⟨hfree, hcovers⟩
    exact ⟨hfree.2, ((h.made p hp).own_of_free hfree).1, hcovers⟩

/-- What is shared is a slot of a major, and a minor shares it. -/
theorem Accounted.sharedBy (h : Accounted catalog majors minors d) (hp : p ∈ d.plan.courses)
    {id : String} (hid : p.sharedRequirementId = some id) :
    ∃ r ∈ majors, ∃ m ∈ minors, m.id = id ∧ p.SharedBy catalog r m := by
  cases h.made p hp with
  | required _ _ _ _ unshared => cases unshared.symm.trans hid
  | own _ _ unshared => cases unshared.symm.trans hid
  | @shared r m major minor slot demanded shared pool covers =>
    refine ⟨r, major, m, minor, Option.some.inj (shared.symm.trans hid), slot, demanded, shared,
      pool, ?_⟩
    rwa [pool]
  | fresh _ _ unshared => cases unshared.symm.trans hid

/-! ## New planned courses -/

/-- A planned course that is new and not sharable leaves the free slots as they are. -/
theorem Accounted.free_push (h : Accounted catalog majors minors d) (hp : p.id = 0)
    (q : PlannedCourse) : Draft.Free { d with plan := d.plan.push p } q ↔ d.Free q := by
  simp only [Free, (Plan.push_new d.plan hp).1, List.mem_append, List.mem_singleton]
  constructor
  · rintro ⟨hold | rfl, hid⟩
    · exact ⟨hold, hid⟩
    · exact absurd (h.given _ hid) (Nat.lt_irrefl _)
  · rintro ⟨hold, hid⟩
    exact ⟨Or.inl hold, hid⟩

theorem Accounted.push (h : Accounted catalog majors minors d) (hp : p.id = 0)
    (hmade : ¬ d.Free { p with id := d.plan.nextId } →
      Made catalog majors minors d.Free { p with id := d.plan.nextId }) :
    Accounted catalog majors minors { d with plan := d.plan.push p } := by
  obtain ⟨hcourses, hnext⟩ := Plan.push_new d.plan hp
  have hfree := h.free_push hp
  refine ⟨h.counted.pushNew hp, ?_, ?_⟩
  · intro id hid
    rw [hnext]
    exact Nat.lt_succ_of_lt (h.given id hid)
  · intro q hq
    have hkeep : ∀ q, Made catalog majors minors d.Free q →
        Made catalog majors minors (Draft.Free { d with plan := d.plan.push p }) q :=
      fun q hq => hq.mono (fun o => (hfree o).1) (hfree q).2
    rw [hcourses, List.mem_append, List.mem_singleton] at hq
    cases hq with
    | inl hold => exact hkeep q (h.made q hold)
    | inr hlast =>
      rw [hlast]
      exact hkeep _ (hmade fun hf => absurd (h.given _ hf.2) (Nat.lt_irrefl _))

theorem Accounted.pushMissing (h : Accounted catalog majors minors d)
    (hr : r ∈ majors ++ minors) (hwhole : ¬ r.Elective catalog) (courses : List Course) :
    Accounted catalog majors minors { d with plan := pushMissing r.id d.plan courses } := by
  induction courses generalizing d with
  | nil => exact h
  | cons c courses ih =>
    rw [pushMissing_cons]
    split
    · exact ih h
    · exact ih (h.push rfl fun taken => .required hr hwhole rfl rfl rfl taken)

/-- A slot of a major, which may be shared. -/
theorem Accounted.pushOwn (h : Accounted catalog majors [] d) (hr : r ∈ majors)
    (helective : r.Elective catalog) :
    Accounted catalog majors []
      { d with
        plan := d.plan.push (.elective (r.placeholder catalog) (Query.pool catalog r.query)
          (some r.id))
        sharable := d.sharable ++ [d.plan.nextId] } := by
  obtain ⟨hcourses, hnext⟩ := Plan.push_new d.plan
    (p := .elective (r.placeholder catalog) (Query.pool catalog r.query) (some r.id)) rfl
  refine ⟨h.counted.pushNew rfl, ?_, ?_⟩
  · intro id hid
    rw [hnext]
    rcases List.mem_append.1 hid with hold | hlast
    · exact Nat.lt_succ_of_lt (h.given id hold)
    · rw [List.mem_singleton.1 hlast]
      exact Nat.lt_succ_self _
  · intro q hq
    rw [hcourses, List.mem_append, List.mem_singleton] at hq
    rcases hq with hold | rfl
    · -- The number that may be shared now is the new one, which no earlier slot has.
      have hne : q.id ≠ d.plan.nextId := Nat.ne_of_lt (h.counted.lt q hold)
      refine (h.made q hold).of_nil ?_
      simp [Free, hcourses, hold, hne]
    · refine .own hr (PlannedCourse.slotOf_elective helective _ _) rfl
        (PlannedCourse.elective_pool ..) ?_
      simp [Free, hcourses]

theorem nextIds_succ (plan : Plan) {p : PlannedCourse} (hp : p.id = 0) (count : Nat) :
    nextIds plan (count + 1) = plan.nextId :: nextIds (plan.push p) count := by
  unfold nextIds
  rw [List.range_succ_eq_map, List.map_cons, List.map_map, (Plan.push_new plan hp).2]
  refine congrArg (plan.nextId :: ·) (List.map_congr_left fun i _ => ?_)
  show plan.nextId + (i + 1) = plan.nextId + 1 + i
  omega

theorem Accounted.pushOwns (hr : r ∈ majors) (helective : r.Elective catalog) (count : Nat)
    (h : Accounted catalog majors [] d) :
    Accounted catalog majors []
      { d with
        plan := d.plan.pushAll (Demand.planned r.id
          (.slots (r.placeholder catalog) (Query.pool catalog r.query) count))
        sharable := d.sharable ++ nextIds d.plan count } := by
  induction count generalizing d with
  | zero => simpa [nextIds, Demand.planned, Plan.pushAll] using h
  | succ count ih =>
    have hlater := ih (h.pushOwn hr helective)
    rw [nextIds_succ d.plan
      (p := .elective (r.placeholder catalog) (Query.pool catalog r.query) (some r.id)) rfl]
    rwa [List.append_assoc, List.singleton_append] at hlater

/-- Slots of a minor, where no free slot covers its pool. -/
theorem Accounted.pushFresh (hm : m ∈ minors) (helective : m.Elective catalog) (count : Nat)
    (h : Accounted catalog majors minors d)
    (hnone : count ≠ 0 → ∀ q, d.Free q → ¬ Covers q.pool (Query.pool catalog m.query)) :
    Accounted catalog majors minors
      { d with
        plan := d.plan.pushAll (Demand.planned m.id
          (.slots (m.placeholder catalog) (Query.pool catalog m.query) count)) } := by
  induction count generalizing d with
  | zero => exact h
  | succ count ih =>
    have hnone := hnone (Nat.succ_ne_zero count)
    refine ih (h.push rfl fun taken => ?_) fun _ q hq => hnone q ((h.free_push rfl q).1 hq)
    exact .fresh hm (PlannedCourse.slotOf_elective helective _ _) rfl
      (PlannedCourse.elective_pool ..) hnone taken

/-! ## Sharing a slot -/

theorem Accounted.share (h : Accounted catalog majors minors d) (hm : m ∈ minors)
    (helective : m.Elective catalog) {before after : List PlannedCourse}
    (hsplit : d.plan.courses = before ++ slot :: after)
    (hshare : canShare d.sharable (Query.pool catalog m.query) slot = true)
    (hleast : ∀ p ∈ d.plan.courses, canShare d.sharable (Query.pool catalog m.query) p = true →
      slot.pool.length ≤ p.pool.length) (source : Chance.Source) :
    Accounted catalog majors minors ⟨{ d.plan with
      courses := before ++
        { slot with
          pool := Query.pool catalog m.query
          sharedRequirementId := some m.id } :: after },
      d.sharable.filter (· != slot.id), source⟩ := by
  have hslot : slot ∈ d.plan.courses := by simp [hsplit]
  obtain ⟨hslotFree, hcovers⟩ := (h.canShare_iff hslot).1 hshare
  obtain ⟨-, r, hr, hslotOf, hpool⟩ := (h.made slot hslot).own_of_free hslotFree
  have hother := h.counted.id_ne hsplit
  -- The slot is struck off, and nothing else has its number.
  have hfree : ∀ q, Draft.Free ⟨{ d.plan with
      courses := before ++
        { slot with
          pool := Query.pool catalog m.query
          sharedRequirementId := some m.id } :: after },
      d.sharable.filter (· != slot.id), source⟩ q → d.Free q ∧ q.id ≠ slot.id := by
    rintro q ⟨hq, hid⟩
    obtain ⟨hid, hne⟩ : q.id ∈ d.sharable ∧ q.id ≠ slot.id := by simpa using hid
    refine ⟨⟨?_, hid⟩, hne⟩
    rcases List.mem_cons.1 (List.perm_middle.mem_iff.1 hq) with rfl | hq
    · exact absurd rfl hne
    · rw [hsplit]
      exact List.perm_middle.mem_iff.2 (List.mem_cons_of_mem _ hq)
  refine ⟨?_, fun id hid => h.given id (List.mem_filter.1 hid).1, ?_⟩
  · refine h.counted.of_perm ?_ rfl
    rw [hsplit, List.map_append, List.map_append, List.map_cons, List.map_cons]
  · intro p hp
    rcases List.mem_cons.1 (List.perm_middle.mem_iff.1 hp) with rfl | hp
    · refine .shared hr hm ⟨hslotOf.demanded, hslotOf.elective, hslotOf.asked,
        hslotOf.placeholder⟩ helective rfl (by dsimp only) ?_ ?_ fun hf => (hfree _ hf).2 rfl
      · rwa [← hpool]
      intro q hq hqcovers
      obtain ⟨hq, -⟩ := hfree q hq
      rw [← hpool]
      exact hleast q hq.1 ((h.canShare_iff hq.1).2 ⟨hq, hqcovers⟩)
    · have hmem : p ∈ d.plan.courses := by
        rw [hsplit]
        exact List.perm_middle.mem_iff.2 (List.mem_cons_of_mem _ hp)
      refine (h.made p hmem).mono (fun q hq => (hfree q hq).1) fun hf => ⟨?_, ?_⟩
      · exact List.perm_middle.mem_iff.2 (List.mem_cons_of_mem _ hp)
      · simpa using ⟨hf.2, hother p hp⟩

/-- When no slot may be shared, all that are needed are left to plan. -/
theorem shareSome_of_none {id : String} {pool : List Course}
    (h : d.shareOne? id pool = none) : ∀ count, shareSome id pool count d = (d, count)
  | 0 => rfl
  | count + 1 => by
    rw [shareSome, h]
    simp only [shareSome_of_none h count]

/-- If slots are left to plan, no free slot covers the pool. -/
theorem Accounted.shareSome (hm : m ∈ minors) (helective : m.Elective catalog) (count : Nat)
    (h : Accounted catalog majors minors d) :
    Accounted catalog majors minors
        (shareSome m.id (Query.pool catalog m.query) count d).1 ∧
      ((shareSome m.id (Query.pool catalog m.query) count d).2 ≠ 0 →
        ∀ q, (shareSome m.id (Query.pool catalog m.query) count d).1.Free q →
          ¬ Covers q.pool (Query.pool catalog m.query)) := by
  -- Once there is no slot to share, there is none for the rest of the count.
  induction count generalizing d with
  | zero => exact ⟨h, fun hne => absurd rfl hne⟩
  | succ count ih =>
    cases hone : d.shareOne? m.id (Query.pool catalog m.query) with
    | none =>
      rw [shareSome_of_none hone]
      refine ⟨h, fun _ q hq hcovers => ?_⟩
      have hshare := (h.canShare_iff hq.1).2 ⟨hq, hcovers⟩
      rw [shareOne?_none hone q hq.1] at hshare
      cases hshare
    | some shared =>
      obtain ⟨before, slot, after, source, hsplit, hshare, hleast, hshared⟩ :=
        shareOne?_split h.counted hone
      rw [Draft.shareSome, hone]
      refine ih ?_
      rw [hshared]
      exact h.share hm helective hsplit hshare hleast source

/-! ## Requirements -/

theorem Accounted.addMajor (h : Accounted catalog majors [] d) (hr : r ∈ majors) :
    Accounted catalog majors [] (addMajor catalog d r) := by
  unfold Draft.addMajor
  rcases r.demand_cases catalog with hwhole | ⟨-, hslots⟩
  · simp only [hwhole]
    exact h.pushMissing (List.mem_append_left _ hr) (Requirement.not_elective hwhole) _
  · simp only [hslots]
    exact h.pushOwns hr ⟨_, _, _, hslots⟩ _

theorem Accounted.addMinor (h : Accounted catalog majors minors d) (hm : m ∈ minors) :
    Accounted catalog majors minors (addMinor catalog d m) := by
  unfold Draft.addMinor
  rcases m.demand_cases catalog with hwhole | ⟨-, hslots⟩
  · simp only [hwhole]
    exact h.pushMissing (List.mem_append_right _ hm) (Requirement.not_elective hwhole) _
  · have helective : m.Elective catalog := ⟨_, _, _, hslots⟩
    simp only [hslots]
    obtain ⟨hshared, hnone⟩ := h.shareSome hm helective
      (slotCount m.credits (m.placeholder catalog).credits)
    exact hshared.pushFresh hm helective _ hnone

theorem Accounted.foldl {minors : List Requirement} {add : Draft → Requirement → Draft}
    {rs : List Requirement}
    (step : ∀ {d r}, r ∈ rs → Accounted catalog majors minors d →
      Accounted catalog majors minors (add d r)) :
    ∀ {d}, Accounted catalog majors minors d →
      Accounted catalog majors minors (rs.foldl add d) := by
  induction rs with
  | nil => exact fun h => h
  | cons r rs ih =>
    intro d h
    exact ih (fun hr => step (List.mem_cons_of_mem _ hr)) (step (List.mem_cons_self ..) h)

theorem addPrograms_accounted (catalog : Catalog) (programs : List Program)
    (h : Accounted catalog (majorRequirements programs) [] d) :
    Accounted catalog (majorRequirements programs) (minorRequirements programs)
      (addPrograms catalog programs d) := by
  have hmajors : Accounted catalog (majorRequirements programs) []
      ((majorRequirements programs).foldl (Draft.addMajor catalog) d) :=
    Accounted.foldl (fun hr hd => hd.addMajor hr) h
  refine Accounted.foldl (fun hm hd => hd.addMinor hm) ⟨hmajors.counted, hmajors.given, ?_⟩
  exact fun p hp => (hmajors.made p hp).with_minors _

end Draft

/-! ## Drafted plans -/

namespace Plan

/-- A drafted plan is a draft whose courses are accounted for, with other terms. -/
theorem draft_accounted (catalog : Catalog) (settings : Settings) (time title : String)
    (userId : Option String) (programs : List Program) (source : Chance.Source) :
    ∃ d, Draft.Accounted catalog (majorRequirements programs) (minorRequirements programs) d ∧
      Retimed d.plan.courses
        (draft catalog settings time title userId programs source).plan.courses := by
  refine ⟨_, Draft.addPrograms_accounted catalog programs ⟨Plan.counted_empty .., ?_, ?_⟩,
    Timetable.schedule_retimed ..⟩
  · exact fun _ hid => nomatch hid
  · exact fun _ hp => nomatch hp

/-- A slot that a minor shares serves the requirement of the major as well. -/
theorem draft_shared (catalog : Catalog) (settings : Settings) (time title : String)
    (userId : Option String) (programs : List Program) (source : Chance.Source) :
    ∀ p ∈ (draft catalog settings time title userId programs source).plan.courses,
      ∀ id, p.sharedRequirementId = some id →
        ∃ r ∈ majorRequirements programs, ∃ m ∈ minorRequirements programs,
          m.id = id ∧ p.SharedBy catalog r m := by
  intro p hp id hid
  obtain ⟨d, h, hcourses⟩ :=
    draft_accounted catalog settings time title userId programs source
  obtain ⟨q, hq, heq⟩ := hcourses.symm.exists_mem hp
  obtain ⟨r, hr, m, hm, hmid, hshared⟩ :=
    h.sharedBy hq ((congrArg PlannedCourse.sharedRequirementId heq).trans hid)
  exact ⟨r, hr, m, hm, hmid, hshared.of_untimed heq⟩

/-! ## A major with choices -/

/-- A major with slots of three pools, and a minor that needs three slots. -/
def choices : List Program :=
  [{ id := "major", kind := .major
     requirements :=
       [{ id := "any", credits := 3, year := 3, query := "ELEC" },
         { id := "pair", credits := 3, year := 2, query := "DATA 301; DATA 405" },
         { id := "three", credits := 3, year := 2, query := "DATA 301; DATA 405; PHIL 120" }] },
    { id := "minor", kind := .minor
      requirements :=
        [{ id := "data", credits := 3, year := -1, query := "DATA 301; DATA 405" },
          { id := "broad", credits := 3, year := -1, query := "MATH 100; PHIL 120" },
          { id := "basics", credits := 3, year := -1, query := "MATH 100; DATA 301" }] }]

/-- A plan with the choices. -/
def chosen : Plan :=
  (draft (.ofCourses shelf) {} "0" "Choices" none choices (.ofList [])).plan

/-- All three slots of the major would serve the first requirement of the minor, and it
shares the one with two courses. -/
theorem draft_shared_chosen :
    ∃ p ∈ chosen.courses, p.sharedRequirementId = some "data" ∧
      ∃ r ∈ majorRequirements choices, ∃ m ∈ minorRequirements choices,
        m.id = "data" ∧ p.SharedBy (.ofCourses shelf) r m := by
  obtain ⟨p, hp, hid⟩ : ∃ p ∈ chosen.courses, p.sharedRequirementId = some "data" := by
    decide +kernel
  have hshared :=
    draft_shared (.ofCourses shelf) {} "0" "Choices" none choices (.ofList []) p hp _ hid
  exact ⟨p, hp, hid, hshared⟩

end Plan

end StudyPlan
