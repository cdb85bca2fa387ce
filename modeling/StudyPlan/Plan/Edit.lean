import StudyPlan.Error
import StudyPlan.Timetable.Schedule

/-!
# Editing a plan

A plan is changed in place (`Plan.Changes`).  An edit is made on a copy, and a copy
on which it is refused is dropped (`Plan.changed`).  That is not needed for a refused
edit to leave the plan as it is, for each is checked before anything is changed.

* *Move* puts a planned course into a term at a place among the courses of that
  term.  The plan is then listed by term.
* *Substitute* shows another course in an elective slot, unless the plan holds
  that course elsewhere.
* *Reset* shows the placeholder that the slot started with.
* *Add a year* and *remove a year*: only a year without courses goes, never the
  only one, and later courses move up by a year.
* *Rename* gives the plan a title, without blanks around it.
* *Enforce order* moves every dependent after its prerequisites.
-/

namespace StudyPlan

/-- A change to a plan. -/
inductive Edit where
  /-- Move a planned course to a place in a term. -/
  | move (id term index : Nat)
  /-- Show a course in an elective slot. -/
  | substitute (id : Nat) (courseId : String)
  /-- Show the placeholder of an elective slot. -/
  | reset (id : Nat)
  /-- Add a year at the end. -/
  | addYear
  /-- Remove a year. -/
  | removeYear (year : Nat)
  /-- Give the plan a title. -/
  | rename (title : String)
  /-- Move dependents after their prerequisites. -/
  | enforceOrder
deriving DecidableEq, Repr

namespace Plan

/-! ## Changing a plan in place -/

/-- Changes to a plan, one after another until one is refused.  What was changed
before that stays changed. -/
abbrev Changes (α : Type) : Type := ExceptT PlanningError (StateM Plan) α

/-- What some changes to a plan give, and the plan that they leave. -/
def Changes.runOn {α : Type} (changes : Changes α) (plan : Plan) : Except PlanningError α × Plan :=
  changes plan

/-- A copy of the plan after some changes, if none is refused. -/
def changed (plan : Plan) (changes : Changes Unit) : Except PlanningError Plan :=
  match changes.runOn plan with
  | (.ok (), next) => .ok next
  | (.error e, _) => .error e

/-! ## Moving -/

/-- The first planned course of a number, and the groups without it. -/
def takeOut (id : Nat) :
    List (List PlannedCourse) → Option (PlannedCourse × List (List PlannedCourse))
  | [] => none
  | group :: rest =>
    match group.find? (·.id == id) with
    | some p => some (p, group.eraseP (·.id == id) :: rest)
    | none => (takeOut id rest).map fun (p, groups) => (p, group :: groups)

/-- A planned course put at a place of a group, or at the group's end if it is shorter. -/
def insertAt (index : Nat) (p : PlannedCourse) (group : List PlannedCourse) :
    List PlannedCourse :=
  group.take index ++ p :: group.drop index

/-- The planned courses of groups, in terms from 1 on. -/
def ungroup (groups : List (List PlannedCourse)) : List PlannedCourse :=
  groups.zipIdx.flatMap fun (group, i) => group.map fun p => { p with term := i + 1 }

/-- A planned course is moved to a place in a term. -/
def moveCourse (id term index : Nat) : Changes Unit := do
  let plan ← get
  if (plan.get? id).isNone then throw (.notPlanned id)
  if term = 0 ∨ plan.numTerms < term then throw (.noSuchTerm term plan.numTerms)
  match takeOut id plan.groups with
  | none => throw (.notPlanned id)
  | some (p, groups) =>
    set { plan with courses := ungroup (groups.modify (term - 1) (insertAt index p)) }

/-- The plan with a planned course moved to a place in a term. -/
def move (plan : Plan) (id term index : Nat) : Except PlanningError Plan :=
  plan.changed (moveCourse id term index)

/-! ## Elective slots -/

/-- A course is shown in an elective slot. -/
def substituteCourse (id : Nat) (course : Course) : Changes Unit := do
  let plan ← get
  match plan.get? id with
  | none => throw (.notPlanned id)
  | some slot =>
    if !slot.isElective then throw (.notElective id)
    if plan.holdsCode course.code (some id) then throw (.alreadyPlanned course.code)
    set (plan.update id fun p => { p with course })

/-- The plan with a course shown in an elective slot. -/
def substitute (plan : Plan) (id : Nat) (course : Course) : Except PlanningError Plan :=
  plan.changed (substituteCourse id course)

/-- The placeholder is shown in an elective slot. -/
def resetCourse (id : Nat) : Changes Unit := do
  let plan ← get
  match plan.get? id with
  | none => throw (.notPlanned id)
  | some slot =>
    match slot.placeholder, slot.isElective with
    | some course, true => set (plan.update id fun p => { p with course })
    | _, _ => throw (.notElective id)

/-- The plan with the placeholder shown in an elective slot. -/
def reset (plan : Plan) (id : Nat) : Except PlanningError Plan := plan.changed (resetCourse id)

/-! ## Years -/

/-- The plan with one more year. -/
def addYear (plan : Plan) : Plan :=
  { plan with numTerms := Word.low32 (plan.numTerms + termsPerYear) }

/-- A year is taken out: the courses after it move up, and then there are fewer terms. -/
def takeOutYear (year : Nat) : Changes Unit := do
  let plan ← get
  let years := plan.numYears
  let count := (plan.inYear year).length
  if year = 0 ∨ years < year then throw (.noSuchYear year years)
  if 0 < count then throw (.yearInUse year count)
  if years = 1 then throw .lastYear
  modify fun plan => { plan with
    courses := plan.courses.map fun p =>
      if year < Term.year p.term then { p with term := p.term - termsPerYear } else p }
  modify fun plan => { plan with numTerms := plan.numTerms - termsPerYear }

/-- The plan without a year. -/
def removeYear (plan : Plan) (year : Nat) : Except PlanningError Plan :=
  plan.changed (takeOutYear year)

/-! ## All edits -/

/-- The plan with another title. -/
def rename (plan : Plan) (title : String) : Plan := { plan with title := Text.trim title }

/-- The plan with every dependent after its prerequisites, and what was moved. -/
def enforceOrder (plan : Plan) (catalog : Catalog) (capacity : Nat) : Plan × ScheduleReport :=
  let (courses, report) := (Timetable.ofSizes plan.numTerms capacity).enforce catalog plan.courses
  ({ plan with courses }, report)

/-- An edit is made. -/
def change (catalog : Catalog) (capacity : Nat) : Edit → Changes Unit
  | .move id term index => moveCourse id term index
  | .substitute id code => do
    match catalog.get? code with
    | none => throw (.unknownCourse code)
    | some course => substituteCourse id course
  | .reset id => resetCourse id
  | .addYear => modify addYear
  | .removeYear year => takeOutYear year
  | .rename title => modify (·.rename title)
  | .enforceOrder => modify fun plan => (plan.enforceOrder catalog capacity).1

/-- The plan after an edit. -/
def apply (catalog : Catalog) (capacity : Nat) (plan : Plan) (edit : Edit) :
    Except PlanningError Plan :=
  plan.changed (change catalog capacity edit)

end Plan

end StudyPlan
