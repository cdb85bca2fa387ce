import StudyPlan.Proofs.Drafting
import StudyPlan.Proofs.FaultlessTimetable
import StudyPlan.Proofs.Moving
import StudyPlan.Proofs.Overflowing

/-!
# Drafting and editing without a fault

A plan is drafted and edited here with strict operations.  None of them has a fault, whatever
the catalogue, the settings, the programs and the random words are, and whatever is asked of
whichever plan, but for a sum that is too great in a checked program (`faultless`).

* A slot is drawn only where one fits.  Those with the smallest pool are then some of them,
  and the number that is drawn is one of theirs (`tightestSlot_of_ne_nil`).
* A course is moved only to a term of the plan.  There are as many groups as terms, and no
  fewer when the course is taken out of its own, and the place in a group is its end at the
  latest (`insertInto_eq`, `move_eq`).
* A term is moved up by a year only if it is behind the year that goes, and so in the second
  year or later (`yearBefore_eq`).
* The sums that may not fit are those of the terms that are asked for, of the credits of a pool
  (`Requirement.CreditsFit`) and of the terms of a plan with one more year (`Plan.RoomFor`).
-/

namespace StudyPlan

/-- The credits of the pool of a requirement fit in their word. -/
def Requirement.CreditsFit (catalog : Catalog) (r : Requirement) : Prop :=
  creditSum (Query.pool catalog r.query) < UInt32.size

instance (catalog : Catalog) (r : Requirement) : Decidable (r.CreditsFit catalog) :=
  inferInstanceAs (Decidable (creditSum (Query.pool catalog r.query) < UInt32.size))

namespace Strict

open Chance (Source)

/-! ## Requirements -/

/-- How many placeholders reach a target of credits. -/
def slotCount (target credits : Nat) : Except Fault Nat :=
  if credits = 0 then return if 0 < target then 1 else 0
  else divide (target + credits - 1) credits

/-- What a requirement demands. -/
def demand (build : Build) (catalog : Catalog) (r : Requirement) : Except Fault Demand := do
  let pool := Query.pool catalog r.query
  if pool.isEmpty then return .whole pool
  if (← totalCredits build pool) = r.credits then return .whole pool
  let placeholder := r.placeholder catalog
  return .slots placeholder pool (← slotCount r.credits placeholder.credits)

theorem slotCount_eq (target credits : Nat) :
    slotCount target credits = .ok (StudyPlan.slotCount target credits) := by
  unfold slotCount StudyPlan.slotCount
  by_cases hzero : credits = 0
  · rw [if_pos hzero, if_pos hzero]
    rfl
  · rw [if_neg hzero, if_neg hzero]
    exact divide_eq_ok_iff.2 ⟨hzero, rfl⟩

theorem demand_eq (build : Build) (catalog : Catalog) (r : Requirement) :
    demand build catalog r
      = require (build = .checked → r.CreditsFit catalog) .overflow (r.demand catalog) := by
  unfold demand
  by_cases hnil : Query.pool catalog r.query = []
  · have hfits : r.CreditsFit catalog := by
      rw [Requirement.CreditsFit, hnil]
      decide
    rw [Requirement.demand_of_whole (Or.inl hnil), require_of fun _ => hfits]
    simp only [hnil]
    rfl
  · have hpool : (Query.pool catalog r.query).isEmpty = false := List.isEmpty_eq_false_iff.2 hnil
    simp only [hpool, totalCredits_eq]
    refine require_bind_ok ?_
    by_cases hcredits : StudyPlan.totalCredits (Query.pool catalog r.query) = r.credits
    · rw [Requirement.demand_of_whole (Or.inr hcredits), if_pos hcredits]
      rfl
    · rw [Requirement.demand_of_slots hnil hcredits, if_neg hcredits, slotCount_eq]
      rfl

/-! ## Drafting -/

/-- A number drawn among the slots with the smallest pool that may serve a pool. -/
def tightestSlot (d : Draft) (pool : List Course) : Except Fault (Option (Nat × Source)) :=
  let fitting := d.plan.courses.filter (Draft.canShare d.sharable pool)
  match (fitting.map (·.pool.length)).min? with
  | none => return none
  | some least => do
    let tied := (fitting.filter (·.pool.length == least)).map (·.id)
    let (i, source) ← below64 d.source tied.length
    return some (← item tied i, source)

/-- The draft with one slot shared, if there is one to share. -/
def shareOne? (requirementId : String) (pool : List Course) (d : Draft) :
    Except Fault (Option Draft) := do
  match ← tightestSlot d pool with
  | none => return none
  | some (id, source) =>
    return some {
      plan := d.plan.update id fun p => { p with pool, sharedRequirementId := some requirementId }
      sharable := d.sharable.filter (· != id)
      source }

/-- The draft with slots shared as far as they go, and how many are still needed. -/
def shareSome (requirementId : String) (pool : List Course) :
    Nat → Draft → Except Fault (Draft × Nat)
  | 0, d => return (d, 0)
  | count + 1, d => do
    match ← shareOne? requirementId pool d with
    | some d => shareSome requirementId pool count d
    | none =>
      let (d, fresh) ← shareSome requirementId pool count d
      return (d, fresh + 1)

/-- The draft with a requirement of a major. -/
def addMajor (build : Build) (catalog : Catalog) (d : Draft) (r : Requirement) :
    Except Fault Draft := do
  match ← demand build catalog r with
  | .whole courses => return { d with plan := Draft.pushMissing r.id d.plan courses }
  | .slots placeholder pool count =>
    return { d with
      plan := d.plan.pushAll (Demand.planned r.id (.slots placeholder pool count))
      sharable := d.sharable ++ Draft.nextIds d.plan count }

/-- The draft with a requirement of a minor. -/
def addMinor (build : Build) (catalog : Catalog) (d : Draft) (r : Requirement) :
    Except Fault Draft := do
  match ← demand build catalog r with
  | .whole courses => return { d with plan := Draft.pushMissing r.id d.plan courses }
  | .slots placeholder pool count =>
    let (d, fresh) ← shareSome r.id pool count d
    return { d with plan := d.plan.pushAll (Demand.planned r.id (.slots placeholder pool fresh)) }

/-- The draft with every requirement of some programs, majors before minors. -/
def addPrograms (build : Build) (catalog : Catalog) (programs : List Program) (d : Draft) :
    Except Fault Draft := do
  let majors := programs.filter (!·.isMinor)
  let minors := programs.filter (·.isMinor)
  let d ← (majors.flatMap (·.requirements)).foldlM (addMajor build catalog) d
  (minors.flatMap (·.requirements)).foldlM (addMinor build catalog) d

/-- A new name for a plan: a time and a drawn number. -/
def newId (time : String) (s : Source) : Except Fault (String × Source) := do
  let (v, s) ← below32 s 0x1000000
  return (time ++ "-" ++ Plan.sixHexDigits v, s)

/-- A plan for some programs. -/
def draft (build : Build) (catalog : Catalog) (settings : Settings) (time title : String)
    (userId : Option String) (programs : List Program) (source : Source) :
    Except Fault Drafted := do
  let (id, source) ← newId time source
  let plan ← empty build id title settings.defaultTerms
  let d ← addPrograms build catalog programs ⟨{ plan with userId }, [], source⟩
  let t := Timetable.ofSizes d.plan.numTerms settings.maxPerTerm
  let (courses, report, source) ←
    schedule t catalog (programs.flatMap (·.requirements)) d.plan.courses d.source
  return ⟨{ d.plan with courses }, report, source⟩

variable {d : Draft} {pool : List Course}

theorem tightestSlot_of_nil (h : d.tightest pool = []) : tightestSlot d pool = .ok none := by
  have hnone : d.plan.courses.filter (Draft.canShare d.sharable pool) = [] :=
    List.filter_eq_nil_iff.2 fun p hp hshare =>
      Bool.noConfusion ((Draft.tightest_eq_nil h p hp).symm.trans hshare)
  simp only [tightestSlot, hnone]
  rfl

/-- A slot is drawn from those that there are, so it is one of them. -/
theorem tightestSlot_of_ne_nil (h : d.tightest pool ≠ []) :
    tightestSlot d pool = .ok (some
      ((d.tightest pool).getD (d.source.below64 (d.tightest pool).length).1 0,
        (d.source.below64 (d.tightest pool).length).2)) := by
  have hlength : 0 < (d.tightest pool).length := List.length_pos_iff.2 h
  have hdrawn : below64 d.source (d.tightest pool).length
      = .ok (d.source.below64 (d.tightest pool).length) := below64_eq_ok_iff.2 ⟨hlength, rfl⟩
  have hitem := item_eq_getD (d.source.below64_lt hlength) 0
  cases hleast : ((d.plan.courses.filter (Draft.canShare d.sharable pool)).map
      (·.pool.length)).min? with
  | none =>
    refine absurd ?_ h
    simp only [Draft.tightest, hleast]
  | some least =>
    have htied : d.tightest pool = ((d.plan.courses.filter (Draft.canShare d.sharable pool)).filter
        (·.pool.length == least)).map (·.id) := by
      simp only [Draft.tightest, hleast]
    simp only [tightestSlot, hleast, ← htied, hdrawn, hitem, ok_bind]
    rfl

theorem shareOne?_eq (requirementId : String) (pool : List Course) (d : Draft) :
    shareOne? requirementId pool d = .ok (d.shareOne? requirementId pool) := by
  unfold shareOne? Draft.shareOne?
  by_cases hnil : d.tightest pool = []
  · rw [tightestSlot_of_nil hnil, hnil]
    rfl
  · have hsome : (d.tightest pool).isEmpty = false := List.isEmpty_eq_false_iff.2 hnil
    simp only [tightestSlot_of_ne_nil hnil, hsome, ok_bind]
    rfl

theorem shareSome_eq (requirementId : String) (pool : List Course) (count : Nat) (d : Draft) :
    shareSome requirementId pool count d = .ok (d.shareSome requirementId pool count) := by
  induction count generalizing d with
  | zero => rfl
  | succ count ih =>
    rw [shareSome, shareOne?_eq, ok_bind, Draft.shareSome]
    cases d.shareOne? requirementId pool with
    | some shared => exact ih shared
    | none => simp only [ih, ok_bind]; rfl

theorem addMajor_eq (build : Build) (catalog : Catalog) (d : Draft) (r : Requirement) :
    addMajor build catalog d r
      = require (build = .checked → r.CreditsFit catalog) .overflow (d.addMajor catalog r) := by
  rw [addMajor, demand_eq, Draft.addMajor]
  refine require_bind_ok ?_
  cases r.demand catalog with
  | whole courses => rfl
  | slots placeholder pool count => rfl

theorem addMinor_eq (build : Build) (catalog : Catalog) (d : Draft) (r : Requirement) :
    addMinor build catalog d r
      = require (build = .checked → r.CreditsFit catalog) .overflow (d.addMinor catalog r) := by
  rw [addMinor, demand_eq, Draft.addMinor]
  refine require_bind_ok ?_
  cases r.demand catalog with
  | whole courses => rfl
  | slots placeholder pool count =>
    simp only [shareSome_eq, ok_bind]
    rfl

theorem addPrograms_eq (build : Build) (catalog : Catalog) (programs : List Program) (d : Draft) :
    addPrograms build catalog programs d
      = require (∀ r ∈ programs.flatMap (·.requirements),
            build = .checked → r.CreditsFit catalog) .overflow
          (d.addPrograms catalog programs) := by
  rw [addPrograms, foldlM_eq_require fun d r _ => addMajor_eq build catalog d r]
  refine Eq.trans (require_bind (foldlM_eq_require (fun d r _ => addMinor_eq build catalog d r) _))
    (require_congr ?_)
  rw [← List.forall_mem_append]
  exact forall_congr' fun r => imp_congr_left (Draft.order_perm programs).mem_iff

theorem draft_eq (build : Build) (catalog : Catalog) (settings : Settings) (time title : String)
    (userId : Option String) (programs : List Program) (source : Source) :
    draft build catalog settings time title userId programs source
      = require (build = .checked → Term.Fits settings.defaultTerms ∧
            ∀ r ∈ programs.flatMap (·.requirements), r.CreditsFit catalog) .overflow
          (Plan.draft catalog settings time title userId programs source) := by
  have hid : newId time source = .ok (Plan.newId time source) := by
    rw [newId, below32_eq_ok_iff.2 ⟨by decide, rfl⟩]
    rfl
  unfold draft
  simp only [hid, ok_bind, empty_eq, addPrograms_eq, schedule_eq]
  refine Eq.trans (require_bind (require_bind_ok rfl)) (require_congr ?_)
  constructor
  · exact fun h hbuild => ⟨h.1 hbuild, fun r hr => h.2 r hr hbuild⟩
  · exact fun h => ⟨fun hbuild => (h hbuild).1, fun r hr hbuild => (h hbuild).2 r hr⟩

/-! ## Moving -/

/-- The group that a planned course belongs to, counted from zero. -/
def groupIndex (plan : Plan) (p : PlannedCourse) : Except Fault Nat := do
  sub (← clamp p.term 1 (Max.max plan.numTerms 1)) 1

/-- The planned courses by term, in the order of the plan. -/
def groups (plan : Plan) : Except Fault (List (List PlannedCourse)) := do
  let indexed ← plan.courses.mapM fun p => do return (p, ← groupIndex plan p)
  return (List.range plan.numTerms).map fun i => (indexed.filter (·.2 == i)).map (·.1)

/-- The first planned course of a number, and the groups without it. -/
def takeOut (id : Nat) :
    List (List PlannedCourse) → Except Fault (Option (PlannedCourse × List (List PlannedCourse)))
  | [] => return none
  | group :: rest =>
    match group.findIdx? (·.id == id) with
    | some i => do
      let (p, left) ← take group i
      return some (p, left :: rest)
    | none => do return (← takeOut id rest).map fun (p, groups) => (p, group :: groups)

/-- The groups with a planned course put at a place of one of them, or at its end. -/
def insertInto (groups : List (List PlannedCourse)) (dest index : Nat) (p : PlannedCourse) :
    Except Fault (List (List PlannedCourse)) := do
  let group ← item groups dest
  return groups.set dest (← insert group (Min.min index group.length) p)

/-- The plan with a planned course moved to a place in a term. -/
def move (plan : Plan) (id term index : Nat) : Except Fault (Except PlanningError Plan) :=
  if (plan.get? id).isNone then return .error (.notPlanned id)
  else if term = 0 ∨ plan.numTerms < term then return .error (.noSuchTerm term plan.numTerms)
  else do
    match ← takeOut id (← groups plan) with
    | none => return .error (.notPlanned id)
    | some (p, groups) =>
      let groups ← insertInto groups (← sub term 1) index p
      return .ok { plan with courses := Plan.ungroup groups }

theorem groupIndex_eq (plan : Plan) (p : PlannedCourse) :
    groupIndex plan p = .ok (plan.groupOf p - 1) := by
  have hone : 1 ≤ plan.groupOf p := Nat.le_max_left _ _
  rw [groupIndex, clamp_eq_ok_iff.2 ⟨Nat.le_max_right _ _, rfl⟩, ok_bind]
  exact sub_eq_ok_iff.2 ⟨hone, rfl⟩

theorem groups_eq (plan : Plan) : groups plan = .ok plan.groups := by
  have hindexed : ∀ p ∈ plan.courses, (do return (p, ← groupIndex plan p) : Except Fault _)
      = .ok (p, plan.groupOf p - 1) := fun p _ => by
    rw [groupIndex_eq]
    rfl
  rw [groups, mapM_eq_ok hindexed, ok_bind]
  refine congrArg Except.ok (List.map_congr_left fun i _ => ?_)
  rw [List.filter_map, List.map_map]
  refine (List.map_id _).trans (List.filter_congr fun p _ => ?_)
  have hone : 1 ≤ plan.groupOf p := Nat.le_max_left _ _
  rw [Bool.eq_iff_iff, beq_iff_eq, Function.comp_apply, beq_iff_eq]
  omega

theorem takeOut_eq (id : Nat) (groups : List (List PlannedCourse)) :
    takeOut id groups = .ok (Plan.takeOut id groups) := by
  induction groups with
  | nil => rfl
  | cons group rest ih =>
    unfold takeOut Plan.takeOut
    cases hplace : group.findIdx? (·.id == id) with
    | none =>
      have hnone : group.find? (·.id == id) = none :=
        List.find?_eq_none.2 fun p hp => Bool.not_eq_true _ ▸ List.findIdx?_eq_none_iff.1 hplace p hp
      simp only [hnone, ih, ok_bind]
      rfl
    | some i =>
      obtain ⟨hlt, hid, hbefore⟩ := List.findIdx?_eq_some_iff_getElem.1 hplace
      have hsome : group.find? (·.id == id) = some group[i] :=
        List.find?_eq_some_iff_getElem.2 ⟨hid, i, hlt, rfl, fun j hj => by simpa using hbefore j hj⟩
      have herase : group.eraseP (·.id == id) = group.eraseIdx i := by
        rw [List.eraseP_eq_eraseIdx, hplace]
      have htake : take group i = .ok (group[i], group.eraseIdx i) :=
        take_eq_ok_iff.2 ⟨List.getElem?_eq_getElem hlt, rfl⟩
      simp only [hsome, herase, htake, ok_bind]
      rfl

theorem insertInto_eq {groups : List (List PlannedCourse)} {dest : Nat}
    (h : dest < groups.length) (index : Nat) (p : PlannedCourse) :
    insertInto groups dest index p = .ok (groups.modify dest (Plan.insertAt index p)) := by
  have hgroup : groups[dest]? = some groups[dest] := List.getElem?_eq_getElem h
  have hinsert : insert groups[dest] (Min.min index groups[dest].length) p
      = .ok (Plan.insertAt index p groups[dest]) :=
    insert_eq_ok_iff.2 ⟨Nat.min_le_right _ _, (Plan.insertAt_eq_insertIdx ..).symm⟩
  rw [insertInto, item_eq_ok_iff.2 hgroup, ok_bind, hinsert, ok_bind, List.modify_eq_set_getElem?,
    hgroup]
  rfl

theorem move_eq (plan : Plan) (id term index : Nat) :
    move plan id term index = .ok (plan.move id term index) := by
  rw [Plan.move, Plan.changed, Plan.moveCourse_eq]
  unfold move
  split
  · rfl
  · split
    · rfl
    next hterm =>
      rw [groups_eq, ok_bind, takeOut_eq, ok_bind]
      cases htake : Plan.takeOut id plan.groups with
      | none => rfl
      | some taken =>
        obtain ⟨p, groups⟩ := taken
        -- Taking a course out leaves its group in its place, even an empty one.
        have hlength : groups.length = plan.numTerms :=
          (Plan.takeOut_perm htake).2.trans (by simp [Plan.groups])
        have hdest : sub term 1 = .ok (term - 1) := sub_eq_ok_iff.2 ⟨by omega, rfl⟩
        have hlt : term - 1 < groups.length := by omega
        simp only [hdest, insertInto_eq hlt, ok_bind]
        rfl

/-! ## Years -/

/-- The term a year before another.  There is none before the first year. -/
def yearBefore (term : Nat) : Except Fault Nat :=
  require (termsPerYear < term) .belowZero (term - termsPerYear)

/-- A planned course after a year is taken out. -/
def withoutYear (year : Nat) (p : PlannedCourse) : Except Fault PlannedCourse :=
  if year < Term.year p.term then do return { p with term := ← yearBefore p.term }
  else return p

/-- The plan without a year. -/
def removeYear (plan : Plan) (year : Nat) : Except Fault (Except PlanningError Plan) :=
  let years := plan.numYears
  let count := (plan.inYear year).length
  if year = 0 ∨ years < year then return .error (.noSuchYear year years)
  else if 0 < count then return .error (.yearInUse year count)
  else if years = 1 then return .error .lastYear
  else do
    let courses ← plan.courses.mapM (withoutYear year)
    return .ok { plan with numTerms := ← sub plan.numTerms termsPerYear, courses }

theorem yearBefore_eq {year term : Nat} (hyear : 1 ≤ year) (h : year < Term.year term) :
    yearBefore term = .ok (term - termsPerYear) := by
  refine require_eq_ok_iff.2 ⟨?_, rfl⟩
  unfold Term.year at h
  unfold termsPerYear at *
  omega

theorem withoutYear_eq {year : Nat} (hyear : 1 ≤ year) (p : PlannedCourse) :
    withoutYear year p = .ok
      (if year < Term.year p.term then { p with term := p.term - termsPerYear } else p) := by
  unfold withoutYear
  split
  next hlater =>
    rw [yearBefore_eq hyear hlater]
    rfl
  · rfl

theorem removeYear_eq (plan : Plan) (year : Nat) :
    removeYear plan year = .ok (plan.removeYear year) := by
  rw [Plan.removeYear, Plan.changed, Plan.takeOutYear_eq]
  unfold removeYear
  simp only
  split
  · rfl
  next hyear =>
    split
    · rfl
    · split
      · rfl
      next hyears =>
        have hterms : termsPerYear ≤ plan.numTerms := by
          unfold Plan.numYears at hyear
          unfold termsPerYear at *
          omega
        rw [mapM_eq_ok fun p _ => withoutYear_eq (by omega) p, sub_eq_ok_iff.2 ⟨hterms, rfl⟩]
        rfl

/-! ## All edits -/

/-- The plan with every dependent after its prerequisites, and what was moved. -/
def enforceOrder (plan : Plan) (catalog : Catalog) (capacity : Nat) :
    Except Fault (Plan × ScheduleReport) := do
  let (courses, report) ←
    enforce (Timetable.ofSizes plan.numTerms capacity) catalog plan.courses
  return ({ plan with courses }, report)

/-- The plan after an edit. -/
def apply (build : Build) (catalog : Catalog) (capacity : Nat) (plan : Plan) :
    Edit → Except Fault (Except PlanningError Plan)
  | .move id term index => move plan id term index
  | .substitute id code =>
    match catalog.get? code with
    | none => return .error (.unknownCourse code)
    | some course => return plan.substitute id course
  | .reset id => return plan.reset id
  | .addYear => do return .ok (← addYear build plan)
  | .removeYear year => removeYear plan year
  | .rename title => return .ok (plan.rename title)
  | .enforceOrder => do return .ok (← enforceOrder plan catalog capacity).1

/-- The plan after a request.  An edit that is refused leaves it as it is. -/
def respond (build : Build) (plan : Plan) (r : EditRequest) : Except Fault Plan := do
  match ← apply build r.catalog r.capacity plan r.edit with
  | .ok next => return next
  | .error _ => return plan

/-- The plan after some requests, one after another. -/
def respondAll (build : Build) (plan : Plan) (rs : List EditRequest) : Except Fault Plan :=
  rs.foldlM (respond build) plan

theorem enforceOrder_eq (plan : Plan) (catalog : Catalog) (capacity : Nat) :
    enforceOrder plan catalog capacity = .ok (plan.enforceOrder catalog capacity) := by
  rw [enforceOrder, enforce_eq]
  rfl

theorem apply_eq (build : Build) (catalog : Catalog) (capacity : Nat) (plan : Plan)
    (edit : Edit) :
    apply build catalog capacity plan edit
      = require (build = .checked → edit.Fits plan) .overflow
          (plan.apply catalog capacity edit) := by
  by_cases hadd : edit = .addYear
  · subst hadd
    rw [apply, addYear_eq]
    refine Eq.trans (require_bind_ok rfl) (require_congr ?_)
    exact ⟨fun hfits hbuild _ => hfits hbuild, fun hfits hbuild => hfits hbuild rfl⟩
  · -- No other edit adds.
    have hfits : edit.Fits plan := fun h => absurd h hadd
    rw [require_of fun _ => hfits]
    cases edit with
    | move id term index => exact move_eq plan id term index
    | substitute id code =>
      rw [Plan.apply_substitute]
      cases hget : catalog.get? code with
      | none =>
        simp only [apply, hget]
        rfl
      | some course =>
        simp only [apply, hget]
        rfl
    | reset id => rfl
    | addYear => exact absurd rfl hadd
    | removeYear year => exact removeYear_eq plan year
    | rename title => rfl
    | enforceOrder =>
      rw [apply, enforceOrder_eq]
      rfl

theorem respond_eq (build : Build) (plan : Plan) (r : EditRequest) :
    respond build plan r
      = require (build = .checked → r.edit.Fits plan) .overflow (plan.respond r) := by
  rw [respond, apply_eq, Plan.respond]
  refine require_bind_ok ?_
  cases plan.apply r.catalog r.capacity r.edit with
  | ok next => rfl
  | error e => rfl

theorem respondAll_eq (build : Build) (plan : Plan) (rs : List EditRequest) :
    respondAll build plan rs
      = require (build = .checked → plan.RoomFor rs) .overflow (plan.respondAll rs) := by
  unfold respondAll
  induction rs generalizing plan with
  | nil => exact (require_of fun _ => trivial).symm
  | cons r rs ih =>
    rw [List.foldlM_cons, respond_eq]
    refine Eq.trans (require_bind (ih (plan.respond r))) (require_congr ?_)
    exact ⟨fun h hbuild => ⟨h.1 hbuild, h.2 hbuild⟩,
      fun h => ⟨fun hbuild => (h hbuild).1, fun hbuild => (h hbuild).2⟩⟩

/-- No draft and no run of edits has a fault: every year is a first one at least, bounds are in
order, draws have something to draw from, places are in their lists, and no term is moved up
from the first year.  A program that is checked does the same if the terms and the credits
of a draft fit, and the years that are added, and otherwise stops at a sum that is too great. -/
theorem faultless (catalog : Catalog) (settings : Settings) (time title : String)
    (userId : Option String) (programs : List Program) (source : Source) :
    (draft .wrapping catalog settings time title userId programs source
        = .ok (Plan.draft catalog settings time title userId programs source) ∧
      ∀ (plan : Plan) (rs : List EditRequest),
        respondAll .wrapping plan rs = .ok (plan.respondAll rs)) ∧
    draft .checked catalog settings time title userId programs source
      = require (Term.Fits settings.defaultTerms ∧
            ∀ r ∈ programs.flatMap (·.requirements), r.CreditsFit catalog) .overflow
          (Plan.draft catalog settings time title userId programs source) ∧
    ∀ (plan : Plan) (rs : List EditRequest),
      respondAll .checked plan rs = require (plan.RoomFor rs) .overflow (plan.respondAll rs) := by
  have hchecked : ∀ p : Prop, (Build.checked = Build.checked → p) ↔ p := fun p =>
    ⟨fun h => h rfl, fun h _ => h⟩
  refine ⟨⟨?_, fun plan rs => ?_⟩, ?_, fun plan rs => ?_⟩
  · exact (draft_eq ..).trans (require_of fun hbuild => nomatch hbuild)
  · exact (respondAll_eq ..).trans (require_of fun hbuild => nomatch hbuild)
  · exact (draft_eq ..).trans (require_congr (hchecked _))
  · exact (respondAll_eq ..).trans (require_congr (hchecked _))

end Strict

end StudyPlan
