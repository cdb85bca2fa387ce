import StudyPlan.Error
import StudyPlan.Prereq.Evaluate
import StudyPlan.Timetable.Precedence

/-!
# Checking a plan

Every planned course is judged in its term against the plan it stands in.
-/

namespace StudyPlan

open Json

/-- The judgement of a planned course. -/
structure CourseCheck where
  /-- The number of the planned course. -/
  plannedId : Nat
  /-- The code that it shows. -/
  code : String
  /-- Its term. -/
  term : Nat
  /-- The judgement. -/
  verdict : Prereq.Verdict
deriving DecidableEq, Repr

namespace Plan

/-- A course judged in a term against a plan. -/
def judge (plan : Plan) (c : Course) (term : Nat) : Prereq.Verdict :=
  Prereq.evaluate ⟨term, plan.plannedTerm?⟩ (c.prerequisites.getD .free)

/-- The judgements of all planned courses. -/
def check (plan : Plan) : List CourseCheck :=
  plan.courses.map fun p => ⟨p.id, p.code, p.term, plan.judge p.course p.term⟩

/-- The numbers of the planned courses that depend on one. -/
def dependents (plan : Plan) (catalog : Catalog) (id : Nat) : Except PlanningError (List Nat) :=
  match plan.position? id with
  | none => .error (.notPlanned id)
  | some i =>
    let g := Precedence.ofCourses catalog plan.courses
    .ok ((g.dependentsOf i).filterMap fun j => plan.courses[j]?.map (·.id))

end Plan

/-- A judgement as data. -/
def CourseCheck.toJson (c : CourseCheck) : Json :=
  .object [("plannedCourseId", .nat c.plannedId), ("code", .text c.code), ("term", .nat c.term),
    ("status", .text c.verdict.status.name), ("failureReasons", .texts c.verdict.reasons)]

end StudyPlan
