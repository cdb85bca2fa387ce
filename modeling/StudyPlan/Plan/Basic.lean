import StudyPlan.Catalog

/-!
# Plans

A plan is a list of *planned courses*, each placed in a term and known by a
number.  A planned course is required or an elective slot.  A slot remembers the
placeholder it started with and the pool it may be filled from.  A minor may
share a slot with the requirement that it was made for.

Numbers are given out in ascending order.  A planned course that comes with a
number of its own moves the next number past it, and if it has the greatest
number of 64 bits, the next number is 0.
-/

namespace StudyPlan

/-- A course in a place of a plan. -/
structure PlannedCourse where
  /-- The number of the planned course. -/
  id : Nat
  /-- The term, from 1 on. -/
  term : Nat
  /-- The course that is shown. -/
  course : Course
  /-- The requirement that asked for it. -/
  requirementId : Option String := none
  /-- An elective slot. -/
  isElective : Bool := false
  /-- How the slot is filled. -/
  electiveKind : Option ElectiveKind := none
  /-- The placeholder that the slot started with. -/
  placeholder : Option Course := none
  /-- The courses that may fill the slot. -/
  pool : List Course := []
  /-- The requirement of a minor that the slot serves as well. -/
  sharedRequirementId : Option String := none
deriving DecidableEq, Repr, Inhabited

namespace PlannedCourse

/-- A required course, without a number and in the first term. -/
def required (course : Course) (requirementId : Option String) : PlannedCourse :=
  { id := 0, term := 1, course, requirementId }

/-- An elective slot that shows its placeholder, without a number and in the
first term. -/
def elective (placeholder : Course) (pool : List Course) (requirementId : Option String) :
    PlannedCourse :=
  { id := 0, term := 1, course := placeholder, requirementId, isElective := true,
    electiveKind := some (.ofPlaceholder placeholder.code), placeholder := some placeholder, pool }

/-- The code of the course that is shown. -/
def code (p : PlannedCourse) : String := p.course.code

/-- A slot that is filled by searching. -/
def isSearchSlot (p : PlannedCourse) : Bool := p.isElective && p.electiveKind == some .search

/-- The course that is shown is a placeholder. -/
def showsPlaceholder (p : PlannedCourse) : Bool := p.course.isPlaceholder

end PlannedCourse

/-- A plan of study. -/
structure Plan where
  /-- The plan's own name. -/
  id : String
  /-- The title. -/
  title : String
  /-- Whose plan it is. -/
  userId : Option String := none
  /-- The number of terms. -/
  numTerms : Nat
  /-- The planned courses. -/
  courses : List PlannedCourse := []
  /-- The next number to give out. -/
  nextId : Nat := 1
deriving DecidableEq, Repr, Inhabited

namespace Plan

/-- A plan without courses, with at least this many terms in whole years. -/
def empty (id title : String) (numTerms : Nat) : Plan :=
  { id, title, numTerms := Term.roundUp numTerms }

/-- The number of years. -/
def numYears (plan : Plan) : Nat := plan.numTerms / termsPerYear

/-- The number that a planned course gets. -/
def idFor (plan : Plan) (p : PlannedCourse) : Nat := if p.id = 0 then plan.nextId else p.id

/-- The next number to give out after a planned course.  Numbers that are given
out count planned courses, so there are always more of them. -/
def nextIdAfter (plan : Plan) (p : PlannedCourse) : Nat :=
  if p.id = 0 then plan.nextId + 1
  else if plan.nextId ≤ p.id then Word.low64 (p.id + 1)
  else plan.nextId

/-- The plan with one more course, which gets a number if it has none. -/
def push (plan : Plan) (p : PlannedCourse) : Plan :=
  { plan with
    courses := plan.courses ++ [{ p with id := plan.idFor p }]
    nextId := plan.nextIdAfter p }

/-- The plan with more courses. -/
def pushAll (plan : Plan) (ps : List PlannedCourse) : Plan := ps.foldl push plan

/-- The planned course of a number. -/
def get? (plan : Plan) (id : Nat) : Option PlannedCourse := plan.courses.find? (·.id == id)

/-- The position of the planned course of a number. -/
def position? (plan : Plan) (id : Nat) : Option Nat := plan.courses.findIdx? (·.id == id)

/-- The courses with the first of a number changed. -/
def updateFirst (id : Nat) (f : PlannedCourse → PlannedCourse) :
    List PlannedCourse → List PlannedCourse
  | [] => []
  | p :: rest => if p.id = id then f p :: rest else p :: updateFirst id f rest

/-- The plan with the planned course of a number changed. -/
def update (plan : Plan) (id : Nat) (f : PlannedCourse → PlannedCourse) : Plan :=
  { plan with courses := updateFirst id f plan.courses }

/-- A planned course shows a code, and does not have the number that is left out. -/
def holdsCode (plan : Plan) (code : String) (except : Option Nat) : Bool :=
  plan.courses.any fun p => some p.id != except && p.code == code

/-- The planned courses of a term. -/
def inTerm (plan : Plan) (term : Nat) : List PlannedCourse :=
  plan.courses.filter (·.term == term)

/-- The planned courses of a year. -/
def inYear (plan : Plan) (year : Nat) : List PlannedCourse :=
  plan.courses.filter (Term.year ·.term == year)

/-- The group that a planned course belongs to: its term, or the nearest that
the plan has. -/
def groupOf (plan : Plan) (p : PlannedCourse) : Nat :=
  Max.max 1 (Min.min p.term (Max.max plan.numTerms 1))

/-- The planned courses by term, in the order of the plan. -/
def groups (plan : Plan) : List (List PlannedCourse) :=
  (List.range plan.numTerms).map fun i => plan.courses.filter (plan.groupOf · == i + 1)

/-- The credits of the planned courses. -/
def credits (plan : Plan) : Nat := totalCredits (plan.courses.map (·.course))

/-- The earliest term in which a code is planned. -/
def plannedTerm? (plan : Plan) (code : String) : Option Nat :=
  ((plan.courses.filter (·.code == code)).map (·.term)).min?

end Plan

end StudyPlan
