import Mathlib.Data.List.Induction
import StudyPlan.Proofs.Saving

/-!
# Histories of an archive

An archive answers as if it remembered every request (`Answers`).  Of each name it has the
plan that was saved last, as it was saved, unless the name was deleted since.  A plan in
which two planned courses have one number is refused, and then nothing has changed.

An archive *holds* some records if its tables have their rows and no other plan's
(`Holds`).  The rows of one plan are told from the others by its name.  So a request changes
the rows of its own plan only, and every other record is held as before (`Holds.put`,
`Holds.without`).
-/

namespace StudyPlan

open Json.Document (max32 max64)

/-- What a list says of a plan, by its record. -/
def PlanRecord.summary (r : PlanRecord) : PlanSummary := ⟨r.id, r.title, r.userId, r.numTerms⟩

theorem Plan.ids_toRecord (plan : Plan) :
    plan.toRecord.courses.map (·.id) = plan.courses.map (·.id) := by
  rw [toRecord, List.map_map]
  rfl

namespace Archive

/-! ## What is held -/

/-- An archive has the rows of some records, which are of plans of different names, and
the rows of no other plan. -/
structure Holds (a : Archive) (live : List PlanRecord) : Prop where
  plans : a.plans = live.map StoredPlan.ofRecord
  courses : ∀ r ∈ live, a.courses.filter (·.planId == r.id) = StoredCourse.ofRecords r
  owned : ∀ c ∈ a.courses, ∃ r ∈ live, r.id = c.planId
  apart : (live.map (·.id)).Nodup
  sized : ∀ r ∈ live, r.Sized

variable {a : Archive} {live : List PlanRecord} {r : PlanRecord} {id : String}

theorem holds_empty : Holds {} [] where
  plans := rfl
  courses _ hr := nomatch hr
  owned _ hc := nomatch hc
  apart := List.nodup_nil
  sized _ hr := nomatch hr

theorem Holds.without (h : Holds a live) (id : String) :
    Holds (a.without id) (live.filter (·.id != id)) where
  plans := by
    rw [Archive.without, h.plans, List.filter_map]
    rfl
  courses r hr := by
    obtain ⟨hr, hne⟩ := List.mem_filter.1 hr
    rw [← h.courses r hr, Archive.without, List.filter_filter]
    refine List.filter_congr fun c _ => ?_
    by_cases hc : c.planId = r.id
    · rw [hc, hne, Bool.and_true]
    · rw [beq_false_of_ne hc, Bool.false_and]
  owned c hc := by
    obtain ⟨hc, hne⟩ := List.mem_filter.1 hc
    obtain ⟨r, hr, hid⟩ := h.owned c hc
    exact ⟨r, List.mem_filter.2 ⟨hr, hid ▸ hne⟩, hid⟩
  apart := h.apart.sublist ((List.filter_sublist ..).map _)
  sized r hr := h.sized r (List.mem_filter.1 hr).1

theorem Holds.put (h : Holds a live) (hnew : ∀ s ∈ live, s.id ≠ r.id) (hsized : r.Sized) :
    Holds
      { plans := .ofRecord r :: a.plans
        courses := a.courses ++ StoredCourse.ofRecords r } (r :: live) where
  plans := by rw [h.plans, List.map_cons]
  courses s hs := by
    rw [List.filter_append]
    rcases List.mem_cons.1 hs with rfl | hs
    · have hold : a.courses.filter (·.planId == s.id) = [] := by
        refine List.filter_eq_nil_iff.2 fun c hc hid => ?_
        obtain ⟨o, ho, hown⟩ := h.owned c hc
        exact hnew o ho (hown.trans (beq_iff_eq.1 hid))
      have hall : (StoredCourse.ofRecords s).filter (·.planId == s.id)
          = StoredCourse.ofRecords s :=
        List.filter_eq_self.2 fun c hc => beq_iff_eq.2 (planId_ofRecords c hc)
      rw [hold, hall, List.nil_append]
    · have hnone : (StoredCourse.ofRecords r).filter (·.planId == s.id) = [] := by
        refine List.filter_eq_nil_iff.2 fun c hc hid => hnew s hs ?_
        exact (beq_iff_eq.1 hid).symm.trans (planId_ofRecords c hc)
      rw [h.courses s hs, hnone, List.append_nil]
  owned c hc := by
    rcases List.mem_append.1 hc with hold | hc
    · obtain ⟨s, hs, hid⟩ := h.owned c hold
      exact ⟨s, List.mem_cons_of_mem _ hs, hid⟩
    · exact ⟨r, List.mem_cons_self .., (planId_ofRecords c hc).symm⟩
  apart := by
    rw [List.map_cons, List.nodup_cons]
    refine ⟨fun hmem => ?_, h.apart⟩
    obtain ⟨s, hs, hid⟩ := List.mem_map.1 hmem
    exact hnew s hs hid
  sized s hs := by
    rcases List.mem_cons.1 hs with rfl | hs
    · exact hsized
    · exact h.sized s hs

theorem ne_of_mem_filter {s : PlanRecord} (hs : s ∈ live.filter (·.id != id)) : s.id ≠ id :=
  bne_iff_ne.1 (List.mem_filter.1 hs).2

/-! ## Answers -/

theorem Holds.find?_of_mem (h : Holds a live) (hr : r ∈ live) :
    a.find? r.id = some (.ofRecord r) := by
  have hrecord : live.find? (·.id == r.id) = some r := by
    cases hfind : live.find? (·.id == r.id) with
    | none => exact absurd (List.find?_eq_none.1 hfind r hr) (by simp)
    | some s =>
      have hkey := List.find?_some hfind
      rw [List.inj_on_of_nodup_map h.apart (List.mem_of_find?_eq_some hfind) hr
        (beq_iff_eq.1 hkey)]
  have hcomp : (fun p : StoredPlan => p.id == r.id) ∘ StoredPlan.ofRecord
      = fun s : PlanRecord => s.id == r.id := rfl
  rw [find?, h.plans, List.find?_map, hcomp, hrecord]
  rfl

theorem Holds.find?_none (h : Holds a live) (hid : ∀ r ∈ live, r.id ≠ id) : a.find? id = none := by
  rw [find?, h.plans]
  refine List.find?_eq_none.2 fun p hp hkey => ?_
  obtain ⟨r, hr, rfl⟩ := List.mem_map.1 hp
  exact hid r hr (beq_iff_eq.1 hkey)

theorem Holds.loadRecord_of_mem (h : Holds a live) (hr : r ∈ live) :
    a.loadRecord r.id = .ok (some r) := by
  rw [loadRecord, h.find?_of_mem hr]
  simp only [toRecord_ofRecord (h.sized r hr) (h.courses r hr)]
  rfl

theorem Holds.loadRecord_none (h : Holds a live) (hid : ∀ r ∈ live, r.id ≠ id) :
    a.loadRecord id = .ok none := by
  rw [loadRecord, h.find?_none hid]

theorem Holds.delete_snd_iff (h : Holds a live) :
    (a.delete id).2 = true ↔ ∃ r ∈ live, r.id = id := by
  rw [delete_eq]
  constructor
  · intro hfound
    by_contra hnone
    rw [h.find?_none fun r hr hid => hnone ⟨r, hr, hid⟩] at hfound
    cases hfound
  · rintro ⟨r, hr, rfl⟩
    rw [h.find?_of_mem hr]
    rfl

theorem summaries_map {rs : List PlanRecord} (h : ∀ r ∈ rs, r.Sized) :
    summaries (rs.map StoredPlan.ofRecord) = .ok (rs.map (·.summary)) := by
  induction rs with
  | nil => rfl
  | cons r rs ih =>
    have hterms : (StoredPlan.ofRecord r).numTerms.nat32 3 "num_terms" = .ok r.numTerms :=
      Cell.nat32_int (h r (List.mem_cons_self ..)).numTerms 3 "num_terms"
    have hone : (StoredPlan.ofRecord r).summary = .ok r.summary := by
      rw [StoredPlan.summary, hterms]
      rfl
    rw [List.map_cons, summaries, hone, ih fun s hs => h s (List.mem_cons_of_mem _ hs)]
    rfl

/-- A list has the plans of a user, or all plans, each of them once. -/
theorem Holds.list_eq (h : Holds a live) (userId : Option String) :
    a.list userId = .ok ((live.filter fun r => userId.isNone || r.userId == userId).map
      (·.summary)) := by
  rw [list, h.plans, List.filter_map]
  exact summaries_map fun r hr => h.sized r (List.mem_filter.1 hr).1

/-! ## Histories -/

/-- What is asked of an archive. -/
inductive Request where
  /-- To save a plan. -/
  | save (plan : Plan)
  /-- To delete the plan of a name. -/
  | delete (id : String)
deriving DecidableEq, Repr

/-- The archive after a request. -/
def after (a : Archive) : Request → Archive
  | .save plan => (saveRecord plan.toRecord a).2
  | .delete id => (a.delete id).1

/-- The archive after some requests. -/
def afterAll (a : Archive) (rs : List Request) : Archive := rs.foldl after a

theorem save_accepted {plan : Plan} (hsized : plan.toRecord.Sized)
    (hids : (plan.courses.map (·.id)).Nodup) (a : Archive) :
    a.save plan = .ok (a.after (.save plan)) := by
  rw [← plan.ids_toRecord] at hids
  simp only [save, Archive.after, saveRecord_accepted hsized hids]

theorem after_save {plan : Plan} (hsized : plan.toRecord.Sized)
    (hids : (plan.courses.map (·.id)).Nodup) (a : Archive) :
    a.after (.save plan) =
      { plans := .ofRecord plan.toRecord :: (a.without plan.id).plans
        courses := (a.without plan.id).courses ++ StoredCourse.ofRecords plan.toRecord } :=
  congrArg Prod.snd (saveRecord_accepted hsized (plan.ids_toRecord ▸ hids) a)

theorem save_refused {plan : Plan} (hids : ¬ (plan.courses.map (·.id)).Nodup) (a : Archive) :
    a.save plan = .error (.archive .repeatedId) ∧ a.after (.save plan) = a := by
  rw [← plan.ids_toRecord] at hids
  simp only [save, Archive.after, saveRecord_refused hids, and_self]

namespace Request

/-- The numbers of a plan that is saved have their sizes. -/
def Sized : Request → Prop
  | .save plan => plan.toRecord.Sized
  | .delete _ => True

/-- A plan is saved in which no number is repeated, so it is not refused. -/
def Saves (plan : Plan) : Request → Prop
  | .save saved => saved = plan ∧ (saved.courses.map (·.id)).Nodup
  | .delete _ => False

/-- The plan of a name is deleted, or another one is saved in its place. -/
def Clears (id : String) : Request → Prop
  | .save saved => saved.id = id ∧ (saved.courses.map (·.id)).Nodup
  | .delete deleted => deleted = id

/-- The last request by which a plan of its name was saved is one that saved this plan, and
its name was not deleted since. -/
def Leave (rs : List Request) (plan : Plan) : Prop :=
  ∃ before last later, rs = before ++ last :: later ∧ last.Saves plan ∧
    ∀ r ∈ later, ¬ r.Clears plan.id

variable {rs : List Request} {req : Request} {plan : Plan}

instance (r : Request) : Decidable r.Sized :=
  match r with
  | .save plan => decidable_of_iff
      (plan.numTerms ≤ max32 ∧ ∀ c ∈ plan.toRecord.courses, c.id ≤ max64 ∧ c.term ≤ max32)
      ⟨fun h => ⟨h.1, h.2⟩, fun h => ⟨h.numTerms, h.courses⟩⟩
  | .delete _ => inferInstanceAs (Decidable True)

instance (id : String) (r : Request) : Decidable (r.Clears id) :=
  match r with
  | .save saved => inferInstanceAs (Decidable (saved.id = id ∧ (saved.courses.map (·.id)).Nodup))
  | .delete deleted => inferInstanceAs (Decidable (deleted = id))

theorem leave_nil : ¬ Leave [] plan := by
  rintro ⟨before, last, later, hsplit, -⟩
  exact List.cons_ne_nil _ _ (List.append_eq_nil_iff.1 hsplit.symm).2

theorem leave_concat :
    Leave (rs ++ [req]) plan ↔ req.Saves plan ∨ Leave rs plan ∧ ¬ req.Clears plan.id := by
  constructor
  · rintro ⟨before, last, later, hsplit, hsaves, hkept⟩
    rcases List.eq_nil_or_concat later with rfl | ⟨later, final, rfl⟩
    · obtain ⟨-, hlast⟩ := List.append_inj' hsplit rfl
      exact Or.inl ((List.singleton_inj.1 hlast) ▸ hsaves)
    · rw [List.concat_eq_append, ← List.cons_append, ← List.append_assoc] at hsplit
      rw [List.concat_eq_append] at hkept
      obtain ⟨hrs, hfinal⟩ := List.append_inj' hsplit rfl
      obtain rfl := List.singleton_inj.1 hfinal
      refine Or.inr ⟨⟨before, last, later, hrs, hsaves, fun r hr => ?_⟩, ?_⟩
      · exact hkept r (List.mem_append_left _ hr)
      · exact hkept req (List.mem_append_right _ (List.mem_singleton.2 rfl))
  · rintro (hsaves | ⟨⟨before, last, later, rfl, hsaves, hkept⟩, hreq⟩)
    · exact ⟨rs, req, [], rfl, hsaves, fun _ hr => (nomatch hr)⟩
    · refine ⟨before, last, later ++ [req], by simp, hsaves, fun r hr => ?_⟩
      rcases List.mem_append.1 hr with hr | hr
      · exact hkept r hr
      · exact List.mem_singleton.1 hr ▸ hreq

end Request

/-- What is held after a request. -/
theorem Holds.after {req : Request} (h : Holds a live) (hsized : req.Sized) :
    ∃ next, Holds (a.after req) next ∧
      ∀ r, r ∈ next ↔
        (∃ plan, req.Saves plan ∧ plan.toRecord = r) ∨ r ∈ live ∧ ¬ req.Clears r.id := by
  cases req with
  | save plan =>
    by_cases hids : (plan.courses.map (·.id)).Nodup
    · rw [after_save hsized hids]
      refine ⟨_, (h.without plan.id).put (fun _ => ne_of_mem_filter) hsized, fun r => ?_⟩
      rw [List.mem_cons, List.mem_filter, bne_iff_ne]
      constructor
      · rintro (rfl | ⟨hr, hne⟩)
        · exact Or.inl ⟨plan, ⟨rfl, hids⟩, rfl⟩
        · exact Or.inr ⟨hr, fun hclears => hne hclears.1.symm⟩
      · rintro (⟨_, ⟨rfl, -⟩, rfl⟩ | ⟨hr, hkept⟩)
        · exact Or.inl rfl
        · exact Or.inr ⟨hr, fun hid => hkept ⟨hid.symm, hids⟩⟩
    · rw [(save_refused hids a).2]
      refine ⟨live, h, fun r => ⟨fun hr => Or.inr ⟨hr, fun hclears => hids hclears.2⟩, ?_⟩⟩
      rintro (⟨_, ⟨-, hsaved⟩, -⟩ | ⟨hr, -⟩)
      · exact absurd hsaved hids
      · exact hr
  | delete name =>
    refine ⟨_, h.without name, fun r => ?_⟩
    rw [List.mem_filter, bne_iff_ne]
    constructor
    · rintro ⟨hr, hne⟩
      exact Or.inr ⟨hr, fun hclears => hne hclears.symm⟩
    · rintro (⟨_, hsaves, -⟩ | ⟨hr, hkept⟩)
      · exact hsaves.elim
      · exact ⟨hr, fun hid => hkept hid.symm⟩

/-- What is held after some requests. -/
theorem holds_afterAll {rs : List Request} (hsized : ∀ r ∈ rs, r.Sized) :
    ∃ live, Holds (afterAll {} rs) live ∧
      ∀ r, r ∈ live ↔ ∃ plan, Request.Leave rs plan ∧ plan.toRecord = r := by
  -- The requests are made in order, so the last one meets what the others have left.
  induction rs using List.reverseRecOn with
  | nil =>
    refine ⟨[], holds_empty, fun r => ⟨fun hr => (nomatch hr), ?_⟩⟩
    rintro ⟨plan, hleave, -⟩
    exact absurd hleave Request.leave_nil
  | append_singleton rs req ih =>
    obtain ⟨live, hlive, hmem⟩ := ih fun r hr => hsized r (List.mem_append_left _ hr)
    obtain ⟨next, hnext, hmemNext⟩ :=
      hlive.after (hsized req (List.mem_append_right _ (List.mem_singleton.2 rfl)))
    refine ⟨next, ?_, fun r => ?_⟩
    · rw [afterAll, List.foldl_append]
      exact hnext
    · rw [hmemNext, hmem]
      constructor
      · rintro (⟨plan, hsaves, hrecord⟩ | ⟨⟨plan, hleave, rfl⟩, hkept⟩)
        · exact ⟨plan, Request.leave_concat.2 (Or.inl hsaves), hrecord⟩
        · exact ⟨plan, Request.leave_concat.2 (Or.inr ⟨hleave, hkept⟩), rfl⟩
      · rintro ⟨plan, hleave, rfl⟩
        rcases Request.leave_concat.1 hleave with hsaves | ⟨hleave, hkept⟩
        · exact Or.inl ⟨plan, hsaves, rfl⟩
        · exact Or.inr ⟨⟨plan, hleave, rfl⟩, hkept⟩

/-- What an archive answers when some requests were made of it, one after another. -/
structure Answers (rs : List Request) (a : Archive) : Prop where
  /-- Of each name that is left, the plan that was saved last is loaded as it was saved. -/
  loaded : ∀ plan, Request.Leave rs plan → a.loadRecord plan.id = .ok (some plan.toRecord)
  /-- Of any other name nothing is loaded. -/
  absent : ∀ id, (∀ plan, Request.Leave rs plan → plan.id ≠ id) → a.loadRecord id = .ok none
  /-- A delete says whether there is a plan of the name. -/
  deleted : ∀ id, (a.delete id).2 = true ↔ ∃ plan, Request.Leave rs plan ∧ plan.id = id
  /-- A list has the plans of a user, or all plans, each of them once. -/
  listed : ∀ userId, ∃ summaries, a.list userId = .ok summaries ∧
    (summaries.map (·.id)).Nodup ∧
    ∀ s, s ∈ summaries ↔ ∃ plan, Request.Leave rs plan ∧
      (userId = none ∨ plan.userId = userId) ∧ plan.toRecord.summary = s
  /-- A plan is saved if no number is repeated. -/
  accepted : ∀ plan, (Request.save plan).Sized → (plan.courses.map (·.id)).Nodup →
    a.save plan = .ok (a.after (.save plan))
  /-- A plan in which a number is repeated is refused, and nothing has changed. -/
  refused : ∀ plan, ¬ (plan.courses.map (·.id)).Nodup →
    a.save plan = .error (.archive .repeatedId) ∧ a.after (.save plan) = a

/-- An archive answers by what was asked of it, whatever that was. -/
theorem afterAll_answers (rs : List Request) (hsized : ∀ r ∈ rs, r.Sized) :
    Answers rs (afterAll {} rs) := by
  obtain ⟨live, h, hmem⟩ := holds_afterAll hsized
  have hleft : ∀ {plan}, Request.Leave rs plan → plan.toRecord ∈ live := fun hleave =>
    (hmem _).2 ⟨_, hleave, rfl⟩
  constructor
  · exact fun plan hleave => h.loadRecord_of_mem (hleft hleave)
  · intro id hnone
    refine h.loadRecord_none fun r hr => ?_
    obtain ⟨plan, hleave, rfl⟩ := (hmem r).1 hr
    exact hnone plan hleave
  · intro id
    rw [h.delete_snd_iff]
    constructor
    · rintro ⟨r, hr, hid⟩
      obtain ⟨plan, hleave, rfl⟩ := (hmem r).1 hr
      exact ⟨plan, hleave, hid⟩
    · rintro ⟨plan, hleave, hid⟩
      exact ⟨_, hleft hleave, hid⟩
  · intro userId
    have huser : ∀ r : PlanRecord, (userId.isNone || r.userId == userId) = true ↔
        userId = none ∨ r.userId = userId := by simp
    refine ⟨_, h.list_eq userId, ?_, fun s => ?_⟩
    · rw [List.map_map]
      exact h.apart.sublist ((List.filter_sublist ..).map _)
    · rw [List.mem_map]
      constructor
      · rintro ⟨r, hr, rfl⟩
        obtain ⟨hr, hof⟩ := List.mem_filter.1 hr
        obtain ⟨plan, hleave, rfl⟩ := (hmem r).1 hr
        exact ⟨plan, hleave, (huser _).1 hof, rfl⟩
      · rintro ⟨plan, hleave, hof, rfl⟩
        exact ⟨_, List.mem_filter.2 ⟨hleft hleave, (huser _).2 hof⟩, rfl⟩
  · exact fun plan hsized hids => save_accepted hsized hids _
  · exact fun plan hids => save_refused hids _

/-! ## A history -/

/-- A plan of planned courses with some numbers. -/
def numbered (id title : String) (userId : Option String) (numbers : List Nat) : Plan where
  id := id
  title := title
  userId := userId
  numTerms := 8
  courses := numbers.map fun n =>
    { PlannedCourse.elective Catalog.genericElective [Catalog.genericElective] (some "later") with
      id := n }

/-- Two plans are saved, one of them again with the greatest number there is, once more with
a number repeated, and the other one is deleted. -/
def history : List Request :=
  [.save (numbered "a" "First" (some "someone") [1, 2]), .save (numbered "b" "Other" none [2]),
    .save (numbered "a" "Second" none [0xFFFFFFFFFFFFFFFF, 1]),
    .save (numbered "a" "Third" none [3, 3]), .delete "b"]

theorem afterAll_answers_history :
    (∀ r ∈ history, r.Sized) ∧
    (afterAll {} history).loadRecord "a"
      = .ok (some (numbered "a" "Second" none [0xFFFFFFFFFFFFFFFF, 1]).toRecord) ∧
    Answers history (afterAll {} history) := by
  have hsized : ∀ r ∈ history, r.Sized := by decide
  have hleave : Request.Leave history (numbered "a" "Second" none [0xFFFFFFFFFFFFFFFF, 1]) :=
    ⟨history.take 2, _, history.drop 3, rfl, ⟨rfl, by decide⟩, by decide⟩
  have hanswers := afterAll_answers history hsized
  exact ⟨hsized, hanswers.loaded _ hleave, hanswers⟩

end Archive

end StudyPlan
