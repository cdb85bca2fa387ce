/-!
# Failures

Why a request is refused.  An edit is refused when it would break the plan, a
record when it does not describe one, and an archive when it cannot hold or give
what is asked for.  `PlanningError.message` is the one place with wording.
-/

namespace StudyPlan

/-- What is wrong with a plan's record. -/
inductive RecordFault where
  /-- The number of terms is not a positive multiple of the terms in a year. -/
  | numTerms (terms : Nat)
  /-- A planned course has the number 0 or one that came before. -/
  | plannedId (id : Nat)
  /-- A kind of elective slot has an unknown name, given between quotation marks. -/
  | electiveKind (quotedName : String)
deriving DecidableEq, Repr

/-- What is wrong in the archive. -/
inductive ArchiveFault where
  /-- Two planned courses of one plan have one number. -/
  | repeatedId
  /-- A kept value is missing. -/
  | missing (column : String)
  /-- A kept number is outside its range. -/
  | outOfRange (value : Int) (index : Nat)
  /-- A kept value is of a wrong type. -/
  | wrongType (type : String) (index : Nat) (name : String)
deriving DecidableEq, Repr

/-- Why a request is refused. -/
inductive PlanningError where
  /-- The course is already in the plan. -/
  | alreadyPlanned (code : String)
  /-- A year that is to be removed has courses. -/
  | yearInUse (year count : Nat)
  /-- The plan has no such year. -/
  | noSuchYear (year years : Nat)
  /-- The only year of a plan is to be removed. -/
  | lastYear
  /-- The plan has no such planned course. -/
  | notPlanned (id : Nat)
  /-- The plan has no such term. -/
  | noSuchTerm (term terms : Nat)
  /-- The planned course is no elective slot. -/
  | notElective (id : Nat)
  /-- The catalogue has no such course. -/
  | unknownCourse (code : String)
  /-- A record describes no plan. -/
  | badRecord (fault : RecordFault)
  /-- The archive refuses. -/
  | archive (fault : ArchiveFault)
  /-- A data text is not readable. -/
  | unreadable
  /-- A file cannot be used. -/
  | noFile (path : String)
  /-- The archive has no plan of the name. -/
  | noPlan (id : String)
deriving DecidableEq, Repr

/-- The wording of a fault in a record. -/
def RecordFault.message : RecordFault → String
  | .numTerms terms => "numTerms must be a positive multiple of 4, got " ++ toString terms
  | .plannedId id => "duplicate or zero planned course id " ++ toString id
  | .electiveKind quotedName => "unknown elective type " ++ quotedName

/-- The wording of a fault in the archive. -/
def ArchiveFault.message : ArchiveFault → String
  | .repeatedId => "UNIQUE constraint failed: planned_courses.plan_id, planned_courses.id"
  | .missing column => "NOT NULL constraint failed: " ++ column
  | .outOfRange value index =>
    "Integer " ++ toString value ++ " out of range at index " ++ toString index
  | .wrongType type index name =>
    "Invalid column type " ++ type ++ " at index: " ++ toString index ++ ", name: " ++ name

/-- The wording of a failure. -/
def PlanningError.message : PlanningError → String
  | .alreadyPlanned code => code ++ " is already in the plan"
  | .yearInUse year count =>
    "year " ++ toString year ++ " still has " ++ toString count ++
      " planned course(s) and cannot be removed"
  | .noSuchYear year years =>
    "year " ++ toString year ++ " does not exist in this plan (" ++ toString years ++ " year(s))"
  | .lastYear => "the only remaining year of a plan cannot be removed"
  | .notPlanned id => "planned course " ++ toString id ++ " not found"
  | .noSuchTerm term terms =>
    "term " ++ toString term ++ " is outside the plan (1..=" ++ toString terms ++ ")"
  | .notElective id => "planned course " ++ toString id ++ " is not an elective"
  | .unknownCourse code => "course " ++ code ++ " not found in catalog"
  | .badRecord fault => "invalid plan record: " ++ fault.message
  | .archive fault => "storage error: " ++ fault.message
  | .unreadable => "the data text is not readable"
  | .noFile path => "the file " ++ path ++ " cannot be used"
  | .noPlan id => "plan " ++ id ++ " not found"

end StudyPlan
