import StudyPlan.Archive.Cell
import StudyPlan.Plan.Record
import StudyPlan.Text.Quoted

/-!
# The archive

An archive keeps plans in two tables, one of plans by name and one of planned
courses by the name of their plan and their number.  Saving a plan puts its row
first, in place of an earlier one of its name, takes the rows of its planned
courses out and adds the new ones.  Deleting a plan takes all of its rows out.

A row with the key of another is refused, which happens if two planned courses
of a plan have one number.  By then some of the rows have been changed, so the
changes of a request are made *atomically*: if one is refused, all are undone.

Some of what is kept can be overwritten with values of any type (`Cell`).  What
is loaded is checked again: the number of terms first, then row by row, in the
order of their positions, the term, the kind of slot and the pool.
-/

namespace StudyPlan

/-! ## Tables -/

/-- The row of a planned course. -/
structure StoredCourse where
  /-- The name of the plan. -/
  planId : String
  /-- The number, as a signed one. -/
  id : Int
  /-- The place among the planned courses. -/
  position : Cell
  /-- The term. -/
  term : Cell
  /-- The code of the course that is shown. -/
  courseId : String
  /-- The requirement that asked for it. -/
  requirementId : Option String
  /-- An elective slot. -/
  isElective : Bool
  /-- The name of how the slot is filled. -/
  electiveKind : Option String
  /-- The code of the placeholder. -/
  placeholderId : Option String
  /-- The codes of the pool, as a data text. -/
  poolText : String
  /-- The requirement of a minor that the slot serves as well. -/
  sharedRequirementId : Option String
deriving DecidableEq, Repr, Inhabited

/-- The row of a plan. -/
structure StoredPlan where
  /-- The plan's own name. -/
  id : String
  /-- The title. -/
  title : String
  /-- Whose plan it is. -/
  userId : Option String
  /-- The number of terms. -/
  numTerms : Cell
deriving DecidableEq, Repr, Inhabited

/-- The two tables. -/
structure Archive where
  /-- The plans, the one that was saved last first. -/
  plans : List StoredPlan := []
  /-- The planned courses of all plans. -/
  courses : List StoredCourse := []
deriving DecidableEq, Repr, Inhabited

/-- What a list of kept plans says of one. -/
structure PlanSummary where
  /-- The plan's own name. -/
  id : String
  /-- The title. -/
  title : String
  /-- Whose plan it is. -/
  userId : Option String
  /-- The number of terms. -/
  numTerms : Nat
deriving DecidableEq, Repr

/-! ## Writing -/

/-- A number of 64 bits as a signed one. -/
def signedId (id : Nat) : Int :=
  if id < 0x8000000000000000 then id else (id : Int) - 0x10000000000000000

/-- The row of a planned course at a position. -/
def StoredCourse.ofRecord (planId : String) (r : PlannedCourseRecord) (position : Nat) :
    StoredCourse where
  planId := planId
  id := signedId r.id
  position := .int position
  term := .int r.term
  courseId := r.courseId
  requirementId := r.requirementId
  isElective := r.isElective
  electiveKind := r.electiveKind.map (·.name)
  placeholderId := r.placeholderId
  poolText := (Json.texts r.poolIds).compact
  sharedRequirementId := r.sharedRequirementId

/-- The rows of the planned courses of a plan. -/
def StoredCourse.ofRecords (r : PlanRecord) : List StoredCourse :=
  r.courses.zipIdx.map fun (c, i) => ofRecord r.id c i

/-- The row of a plan. -/
def StoredPlan.ofRecord (r : PlanRecord) : StoredPlan where
  id := r.id
  title := r.title
  userId := r.userId
  numTerms := .int r.numTerms

/-! ## Reading -/

/-- The kind of slot that is kept under a name. -/
def StoredCourse.readKind : Option String → Except PlanningError (Option ElectiveKind)
  | none => .ok none
  | some name =>
    match ElectiveKind.names.lookup name with
    | some kind => .ok (some kind)
    | none => .error (.badRecord (.electiveKind (Text.quoted name)))

/-- The codes that are kept as a data text. -/
def StoredCourse.readPool (s : String) : Except PlanningError (List String) :=
  match (Json.Document.ofText? s).bind
      (Json.Document.list? Json.nesting fun _ d => d.text?) with
  | some codes => .ok codes
  | none => .error .unreadable

/-- A signed number as one of 64 bits without a sign. -/
def unsignedId (i : Int) : Nat := (if i < 0 then i + 0x10000000000000000 else i).toNat

/-- The record of a kept planned course. -/
def StoredCourse.toRecord (c : StoredCourse) : Except PlanningError PlannedCourseRecord := do
  let term ← c.term.nat32 1 "term"
  let electiveKind ← readKind c.electiveKind
  let poolIds ← readPool c.poolText
  return ⟨unsignedId c.id, term, c.courseId, c.requirementId, c.isElective, electiveKind,
    c.placeholderId, poolIds, c.sharedRequirementId⟩

/-- The records of some rows. -/
def StoredCourse.toRecords : List StoredCourse → Except PlanningError (List PlannedCourseRecord)
  | [] => .ok []
  | c :: rest => do
    let r ← c.toRecord
    let rs ← toRecords rest
    return r :: rs

/-- What a list says of a kept plan. -/
def StoredPlan.summary (p : StoredPlan) : Except PlanningError PlanSummary := do
  let numTerms ← p.numTerms.nat32 3 "num_terms"
  return ⟨p.id, p.title, p.userId, numTerms⟩

namespace Archive

/-- The row of the plan of a name. -/
def find? (a : Archive) (id : String) : Option StoredPlan := a.plans.find? (·.id == id)

/-- The rows of the planned courses of a plan in the order of their positions, and
of their numbers where positions are equal. -/
def rows (a : Archive) (planId : String) : List StoredCourse :=
  let found := a.courses.filter (·.planId == planId)
  (found.mergeSort fun a b => decide (a.id ≤ b.id)).mergeSort fun a b => a.position.le b.position

/-- The record of a kept plan. -/
def toRecord (a : Archive) (p : StoredPlan) : Except PlanningError PlanRecord := do
  let numTerms ← p.numTerms.nat32 3 "num_terms"
  let courses ← StoredCourse.toRecords (a.rows p.id)
  return ⟨p.id, p.title, numTerms, p.userId, courses⟩

/-! ## Changes -/

/-- Changes to an archive, one after another until one is refused.  What was
changed before that stays changed. -/
abbrev Changes (α : Type) : Type := ExceptT PlanningError (StateM Archive) α

/-- A row of a plan is put first, in place of the one of its name. -/
def putPlan (p : StoredPlan) : Changes Unit :=
  modify fun a => { a with plans := p :: a.plans.filter (·.id != p.id) }

/-- The row of the plan of a name is taken out, if there is one. -/
def dropPlan (id : String) : Changes Bool := do
  let a ← get
  set { a with plans := a.plans.filter (·.id != id) }
  return (a.find? id).isSome

/-- The rows of the planned courses of a plan are taken out. -/
def dropCourses (planId : String) : Changes Unit :=
  modify fun a => { a with courses := a.courses.filter (·.planId != planId) }

/-- A row of a planned course is added, if none has its key. -/
def addCourse (c : StoredCourse) : Changes Unit := do
  let a ← get
  if a.courses.any fun o => o.planId == c.planId && o.id == c.id then
    throw (.archive .repeatedId)
  set { a with courses := a.courses ++ [c] }

/-- All changes are made, or none. -/
def atomically (changes : Changes α) : Changes α := fun a =>
  match changes a with
  | (.ok x, changed) => (.ok x, changed)
  | (.error e, _) => (.error e, a)

/-- A record takes the place of the one of its name. -/
def saveRecord (r : PlanRecord) : Changes Unit :=
  atomically do
    putPlan (.ofRecord r)
    dropCourses r.id
    (StoredCourse.ofRecords r).forM addCourse

/-- The plan of a name is taken out, if there is one. -/
def deleteRecord (id : String) : Changes Bool :=
  atomically do
    dropCourses id
    dropPlan id

/-! ## Plans -/

/-- The archive with a plan saved. -/
def save (a : Archive) (plan : Plan) : Except PlanningError Archive :=
  match saveRecord plan.toRecord a with
  | (.ok (), saved) => .ok saved
  | (.error e, _) => .error e

/-- The record of the plan of a name, if there is one. -/
def loadRecord (a : Archive) (id : String) : Except PlanningError (Option PlanRecord) :=
  match a.find? id with
  | none => .ok none
  | some p => (a.toRecord p).map some

/-- The plan of a name, if there is one. -/
def load (a : Archive) (catalog : Catalog) (id : String) : Except PlanningError (Option Plan) := do
  match ← a.loadRecord id with
  | none => return none
  | some r => return some (← Plan.ofRecord catalog r)

/-- The summaries of some kept plans. -/
def summaries : List StoredPlan → Except PlanningError (List PlanSummary)
  | [] => .ok []
  | p :: rest => do
    let s ← p.summary
    let ss ← summaries rest
    return s :: ss

/-- The plans of a user, or all plans, the one that was saved last first. -/
def list (a : Archive) (userId : Option String) : Except PlanningError (List PlanSummary) :=
  summaries (a.plans.filter fun p => userId.isNone || p.userId == userId)

/-- The archive without the plan of a name, and whether there was one. -/
def delete (a : Archive) (id : String) : Archive × Bool :=
  match deleteRecord id a with
  | (.ok wasThere, changed) => (changed, wasThere)
  | (.error _, same) => (same, false)

/-! ## Overwriting -/

/-- A column that can be overwritten. -/
inductive Column where
  /-- The number of terms of every plan. -/
  | numTerms
  /-- The place of a planned course. -/
  | position
  /-- The term of a planned course. -/
  | term
  /-- The kind of a slot. -/
  | electiveKind
  /-- The pool of a slot. -/
  | pool
deriving DecidableEq, Repr

/-- The columns by name. -/
def Column.names : List (String × Column) :=
  [("num_terms", .numTerms), ("position", .position), ("term", .term),
    ("elective_type", .electiveKind), ("alternative_ids", .pool)]

/-- A kept planned course with a column overwritten; `none` if the column cannot
be empty. -/
def overwriteCourse (column : Column) (v : Cell) (c : StoredCourse) :
    Except PlanningError StoredCourse :=
  match column, v with
  | .numTerms, _ => .ok c
  | .electiveKind, v => .ok { c with electiveKind := v.inTextColumn }
  | .position, .empty => .error (.archive (.missing "planned_courses.position"))
  | .position, v => .ok { c with position := v.inNumberColumn }
  | .term, .empty => .error (.archive (.missing "planned_courses.term"))
  | .term, v => .ok { c with term := v.inNumberColumn }
  | .pool, v =>
    match v.inTextColumn with
    | some s => .ok { c with poolText := s }
    | none => .error (.archive (.missing "planned_courses.alternative_ids"))

/-- The archive with a column overwritten, of every plan or of every planned
course of a number, and how many values were overwritten. -/
def overwrite (a : Archive) (column : Column) (id : Nat) (v : Cell) :
    Except PlanningError (Archive × Nat) :=
  match column, v with
  | .numTerms, .empty =>
    if a.plans.isEmpty then .ok (a, 0)
    else .error (.archive (.missing "course_plans.num_terms"))
  | .numTerms, v =>
    .ok ({ a with plans := a.plans.map fun p => { p with numTerms := v.inNumberColumn } },
      a.plans.length)
  | column, v => do
    let courses ← a.courses.mapM fun c =>
      if c.id = signedId id then overwriteCourse column v c else .ok c
    return ({ a with courses }, a.courses.countP (·.id == signedId id))

/-! ## Archives as data -/

/-- The records of some kept plans. -/
def records (a : Archive) : List StoredPlan → Except PlanningError (List PlanRecord)
  | [] => .ok []
  | p :: rest => do
    let r ← a.toRecord p
    let rs ← a.records rest
    return r :: rs

/-- The archive as a data text: an object with its records in order. -/
def toText (a : Archive) : Except PlanningError String :=
  (a.records a.plans).map fun rs =>
    (Json.object [("plans", .array (rs.map PlanRecord.toJson))]).pretty

/-- The records that a data text spells. -/
def recordsOfText? (s : String) : Option (List PlanRecord) :=
  match Json.Document.ofText? s with
  | some (.object parts) => do
    let fields ← Json.Document.listedFields? ["plans"] parts
    fields.required? "plans" (Json.Document.list? (Json.nesting - 1) PlanRecord.decode?)
  | _ => none

/-- The archive that a text spells: its records are saved from the last to the
first. -/
def ofText? (s : String) : Option Archive := do
  let rs ← recordsOfText? s
  match rs.reverse.forM saveRecord ({} : Archive) with
  | (.ok (), a) => some a
  | (.error _, _) => none

end Archive

end StudyPlan
