import StudyPlan.Requirement.Demand
import StudyPlan.Settings
import StudyPlan.Timetable.Schedule

/-!
# Drafting a plan

A draft takes the requirements of the majors and honours programs first, then
those of the minors, and then gives every course a term.  A course that a
requirement demands is planned once, however many requirements demand it.  Slots
are planned for every requirement of a major.  A slot that a minor needs is
first looked for among the slots of the majors: one that is not shared yet and
whose pool has every course of the minor's pool, with the smallest such pool,
drawn where there are several.  The minor's pool becomes the pool of the shared
slot.  New slots are planned only for what is left.
-/

namespace StudyPlan

open Chance (Source)

/-- The planned courses of a demand, without numbers and terms. -/
def Demand.planned (requirementId : String) : Demand → List PlannedCourse
  | .whole courses => courses.map (PlannedCourse.required · (some requirementId))
  | .slots placeholder pool count =>
    List.replicate count (PlannedCourse.elective placeholder pool (some requirementId))

/-- A plan being drafted. -/
structure Draft where
  /-- The plan so far. -/
  plan : Plan
  /-- The numbers of the slots that a minor may still share. -/
  sharable : List Nat := []
  /-- The random words left. -/
  source : Source

namespace Draft

/-- The plan with the demanded courses that it does not hold yet. -/
def pushMissing (requirementId : String) (plan : Plan) (courses : List Course) : Plan :=
  courses.foldl
    (fun plan c =>
      if plan.holdsCode c.code none then plan
      else plan.push (.required c (some requirementId)))
    plan

/-- The numbers that a plan gives to some more courses without numbers. -/
def nextIds (plan : Plan) (count : Nat) : List Nat :=
  (List.range count).map (plan.nextId + ·)

/-- The draft with a requirement of a major. -/
def addMajor (catalog : Catalog) (d : Draft) (r : Requirement) : Draft :=
  match r.demand catalog with
  | .whole courses => { d with plan := pushMissing r.id d.plan courses }
  | .slots placeholder pool count =>
    { d with
      plan := d.plan.pushAll (Demand.planned r.id (.slots placeholder pool count))
      sharable := d.sharable ++ nextIds d.plan count }

/-- A slot may serve a pool as well. -/
def canShare (sharable : List Nat) (pool : List Course) (p : PlannedCourse) : Bool :=
  sharable.contains p.id && p.sharedRequirementId.isNone &&
    pool.all fun c => p.pool.any (·.code == c.code)

/-- The slots with the smallest pool among those that may serve a pool. -/
def tightest (d : Draft) (pool : List Course) : List Nat :=
  let fitting := d.plan.courses.filter (canShare d.sharable pool)
  match (fitting.map (·.pool.length)).min? with
  | none => []
  | some least => (fitting.filter (·.pool.length == least)).map (·.id)

/-- The draft with one slot shared, if there is one to share. -/
def shareOne? (requirementId : String) (pool : List Course) (d : Draft) : Option Draft :=
  let tied := d.tightest pool
  if tied.isEmpty then none
  else
    let (i, source) := d.source.below64 tied.length
    let id := tied.getD i 0
    some
      { plan := d.plan.update id fun p =>
          { p with pool, sharedRequirementId := some requirementId }
        sharable := d.sharable.filter (· != id)
        source }

/-- The draft with slots shared as far as they go, and how many are still needed. -/
def shareSome (requirementId : String) (pool : List Course) : Nat → Draft → Draft × Nat
  | 0, d => (d, 0)
  | count + 1, d =>
    match d.shareOne? requirementId pool with
    | some d => shareSome requirementId pool count d
    | none =>
      let (d, fresh) := shareSome requirementId pool count d
      (d, fresh + 1)

/-- The draft with a requirement of a minor. -/
def addMinor (catalog : Catalog) (d : Draft) (r : Requirement) : Draft :=
  match r.demand catalog with
  | .whole courses => { d with plan := pushMissing r.id d.plan courses }
  | .slots placeholder pool count =>
    let (d, fresh) := shareSome r.id pool count d
    { d with plan := d.plan.pushAll (Demand.planned r.id (.slots placeholder pool fresh)) }

/-- The draft with every requirement of some programs, majors before minors. -/
def addPrograms (catalog : Catalog) (programs : List Program) (d : Draft) : Draft :=
  let majors := programs.filter (!·.isMinor)
  let minors := programs.filter (·.isMinor)
  let d := (majors.flatMap (·.requirements)).foldl (addMajor catalog) d
  (minors.flatMap (·.requirements)).foldl (addMinor catalog) d

end Draft

/-- A new plan, what its scheduling reports, and the random words left. -/
structure Drafted where
  /-- The plan. -/
  plan : Plan
  /-- What its scheduling reports. -/
  report : ScheduleReport
  /-- The random words left. -/
  source : Source

namespace Plan

/-- A number in hexadecimal, with at least six digits. -/
def sixHexDigits (n : Nat) : String :=
  let ds := Nat.toDigits 16 n
  String.ofList (List.replicate (6 - ds.length) '0' ++ ds)

/-- A new name for a plan: a time and a drawn number. -/
def newId (time : String) (s : Source) : String × Source :=
  let (v, s) := s.below32 0x1000000
  (time ++ "-" ++ sixHexDigits v, s)

/-- A plan for some programs. -/
def draft (catalog : Catalog) (settings : Settings) (time title : String) (userId : Option String)
    (programs : List Program) (source : Source) : Drafted :=
  let (id, source) := newId time source
  let start : Plan := { Plan.empty id title settings.defaultTerms with userId }
  let d := Draft.addPrograms catalog programs ⟨start, [], source⟩
  let t := Timetable.ofSizes d.plan.numTerms settings.maxPerTerm
  let (courses, report, source) :=
    t.schedule catalog (programs.flatMap (·.requirements)) d.plan.courses d.source
  ⟨{ d.plan with courses }, report, source⟩

end Plan

end StudyPlan
