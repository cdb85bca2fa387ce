import StudyPlan.Error
import StudyPlan.Plan.Basic

/-!
# Records of plans

A record is a plan for exchange: courses are named by their codes.
`Plan.toRecord` writes one, and `Plan.ofRecord` makes a plan of one again,
looking every code up in the catalogue.

A record describes a plan if its number of terms is a positive multiple of the
terms in a year, its planned courses have different numbers other than 0, their
terms are terms of the plan and the catalogue has all their codes.  The first
fault in the order of the record is reported.
-/

namespace StudyPlan

open Json

/-- The record of a planned course. -/
structure PlannedCourseRecord where
  /-- The number. -/
  id : Nat
  /-- The term. -/
  term : Nat
  /-- The code of the course that is shown. -/
  courseId : String
  /-- The requirement that asked for it. -/
  requirementId : Option String := none
  /-- An elective slot. -/
  isElective : Bool := false
  /-- How the slot is filled. -/
  electiveKind : Option ElectiveKind := none
  /-- The code of the placeholder that the slot started with. -/
  placeholderId : Option String := none
  /-- The codes of the courses that may fill the slot. -/
  poolIds : List String := []
  /-- The requirement of a minor that the slot serves as well. -/
  sharedRequirementId : Option String := none
deriving DecidableEq, Repr, Inhabited

/-- The record of a plan. -/
structure PlanRecord where
  /-- The plan's own name. -/
  id : String
  /-- The title. -/
  title : String
  /-- The number of terms. -/
  numTerms : Nat
  /-- Whose plan it is. -/
  userId : Option String := none
  /-- The planned courses. -/
  courses : List PlannedCourseRecord := []
deriving DecidableEq, Repr, Inhabited

/-! ## Data -/

namespace PlannedCourseRecord

/-- The names of the fields, in order. -/
def fieldNames : List String :=
  ["id", "term", "courseId", "requirementId", "isElective", "electiveType", "placeholderId",
    "alternativeIds", "sharedRequirementId"]

/-- The record that a document spells. -/
def decode? : Nat → Document → Option PlannedCourseRecord
  | 0, _ => none
  | depth + 1, d => do
    let fields ← d.record? (depth + 1) fieldNames
    let id ← fields.required? "id" (Document.nat? Document.max64)
    let term ← fields.required? "term" (Document.nat? Document.max32)
    let courseId ← fields.required? "courseId" Document.text?
    let requirementId ← fields.optional? "requirementId" Document.text?
    let isElective ← fields.withDefault? "isElective" false Document.bool?
    let electiveKind ← fields.optional? "electiveType" (Document.name? depth ElectiveKind.names)
    let placeholderId ← fields.optional? "placeholderId" Document.text?
    let poolIds ←
      fields.withDefault? "alternativeIds" [] (Document.list? depth fun _ d => d.text?)
    let sharedRequirementId ← fields.optional? "sharedRequirementId" Document.text?
    return ⟨id, term, courseId, requirementId, isElective, electiveKind, placeholderId, poolIds,
      sharedRequirementId⟩

/-- The record as data.  What is absent is left out, an empty pool too. -/
def toJson (r : PlannedCourseRecord) : Json :=
  .object (
    [("id", .nat r.id), ("term", .nat r.term), ("courseId", .text r.courseId)] ++
    optionalField "requirementId" .text r.requirementId ++
    [("isElective", .bool r.isElective)] ++
    optionalField "electiveType" (.text ·.name) r.electiveKind ++
    optionalField "placeholderId" .text r.placeholderId ++
    (if r.poolIds.isEmpty then [] else [("alternativeIds", .texts r.poolIds)]) ++
    optionalField "sharedRequirementId" .text r.sharedRequirementId)

end PlannedCourseRecord

namespace PlanRecord

/-- The names of the fields, in order. -/
def fieldNames : List String := ["id", "title", "numTerms", "userId", "plannedCourses"]

/-- The record that a document spells. -/
def decode? : Nat → Document → Option PlanRecord
  | 0, _ => none
  | depth + 1, d => do
    let fields ← d.record? (depth + 1) fieldNames
    let id ← fields.required? "id" Document.text?
    let title ← fields.required? "title" Document.text?
    let numTerms ← fields.required? "numTerms" (Document.nat? Document.max32)
    let userId ← fields.optional? "userId" Document.text?
    let courses ←
      fields.withDefault? "plannedCourses" [] (Document.list? depth PlannedCourseRecord.decode?)
    return ⟨id, title, numTerms, userId, courses⟩

/-- The record that a data text spells. -/
def ofText? (s : String) : Option PlanRecord := (Document.ofText? s).bind (decode? nesting)

/-- The record as data. -/
def toJson (r : PlanRecord) : Json :=
  .object (
    [("id", .text r.id), ("title", .text r.title), ("numTerms", .nat r.numTerms)] ++
    optionalField "userId" .text r.userId ++
    [("plannedCourses", .array (r.courses.map PlannedCourseRecord.toJson))])

end PlanRecord

/-! ## Writing -/

/-- The record of a planned course. -/
def PlannedCourse.toRecord (p : PlannedCourse) : PlannedCourseRecord where
  id := p.id
  term := p.term
  courseId := p.code
  requirementId := p.requirementId
  isElective := p.isElective
  electiveKind := p.electiveKind
  placeholderId := p.placeholder.map (·.code)
  poolIds := p.pool.map (·.code)
  sharedRequirementId := p.sharedRequirementId

namespace Plan

/-- The record of a plan. -/
def toRecord (plan : Plan) : PlanRecord where
  id := plan.id
  title := plan.title
  numTerms := plan.numTerms
  userId := plan.userId
  courses := plan.courses.map PlannedCourse.toRecord

/-- The plan as an indented data text. -/
def toText (plan : Plan) : String := plan.toRecord.toJson.pretty

/-! ## Reading -/

/-- The course of a code. -/
def lookUp (catalog : Catalog) (code : String) : Except PlanningError Course :=
  match catalog.get? code with
  | some c => .ok c
  | none => .error (.unknownCourse code)

/-- The courses of some codes. -/
def lookUpAll (catalog : Catalog) : List String → Except PlanningError (List Course)
  | [] => .ok []
  | code :: rest => do
    let c ← lookUp catalog code
    let cs ← lookUpAll catalog rest
    return c :: cs

/-- The course of a code that may be absent. -/
def lookUpOptional (catalog : Catalog) : Option String → Except PlanningError (Option Course)
  | none => .ok none
  | some code => (lookUp catalog code).map some

/-- The planned course of a record, in a plan of some terms in which some
numbers are taken. -/
def coursePlannedBy (catalog : Catalog) (numTerms : Nat) (taken : List Nat)
    (r : PlannedCourseRecord) : Except PlanningError PlannedCourse := do
  if r.id = 0 ∨ taken.contains r.id then throw (.badRecord (.plannedId r.id))
  if r.term = 0 ∨ numTerms < r.term then throw (.noSuchTerm r.term numTerms)
  let course ← lookUp catalog r.courseId
  let placeholder ← lookUpOptional catalog r.placeholderId
  let pool ← lookUpAll catalog r.poolIds
  return ⟨r.id, r.term, course, r.requirementId, r.isElective, r.electiveKind, placeholder, pool,
    r.sharedRequirementId⟩

/-- The plan with the planned courses of some records. -/
def pushRecords (catalog : Catalog) (numTerms : Nat) :
    List Nat → Plan → List PlannedCourseRecord → Except PlanningError Plan
  | _, plan, [] => .ok plan
  | taken, plan, r :: rest => do
    let p ← coursePlannedBy catalog numTerms taken r
    pushRecords catalog numTerms (r.id :: taken) (plan.push p) rest

/-- The plan that a record describes. -/
def ofRecord (catalog : Catalog) (r : PlanRecord) : Except PlanningError Plan :=
  if r.numTerms = 0 ∨ r.numTerms % termsPerYear ≠ 0 then
    .error (.badRecord (.numTerms r.numTerms))
  else
    pushRecords catalog r.numTerms [] { Plan.empty r.id r.title r.numTerms with userId := r.userId }
      r.courses

/-- The plan that a data text spells. -/
def ofText (catalog : Catalog) (s : String) : Except PlanningError Plan :=
  match PlanRecord.ofText? s with
  | some r => ofRecord catalog r
  | none => .error .unreadable

end Plan

end StudyPlan
