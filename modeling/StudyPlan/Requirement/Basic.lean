import StudyPlan.Course.Json

/-!
# Requirements and programs

A *program* is a major, a minor or an honours program.  It is a list of
requirements.  A requirement asks for credits from the courses that its query
describes, in a year of study or, if that is negative, in any year from the
second on.
-/

namespace StudyPlan

open Json

/-- What a program asks for. -/
structure Requirement where
  /-- The name by which planned courses refer to the requirement. -/
  id : String
  /-- How many credits are asked for. -/
  credits : Nat
  /-- In which year; any year from the second on if negative. -/
  year : Int
  /-- Asked for by this program only. -/
  programSpecific : Bool := false
  /-- Which courses count. -/
  query : String := ""
  /-- The placeholder for a course still to be chosen. -/
  placeholderCode : Option String := none
deriving DecidableEq, Repr, Inhabited

namespace Requirement

/-- The year is left open. -/
def isFlexible (r : Requirement) : Bool := decide (r.year < 0)

/-- The names of the fields, in order. -/
def fieldNames : List String :=
  ["id", "credits", "year", "programSpecific", "alternativeQuery", "electiveCourse"]

/-- The requirement that a document spells. -/
def decode? (depth : Nat) (d : Document) : Option Requirement := do
  let fields ← d.record? depth fieldNames
  let id ← fields.required? "id" Document.text?
  let credits ← fields.required? "credits" (Document.nat? Document.max32)
  let year ← fields.required? "year" (Document.int? (-0x80000000) 0x7FFFFFFF)
  let programSpecific ← fields.withDefault? "programSpecific" false Document.bool?
  let query ← fields.withDefault? "alternativeQuery" "" Document.text?
  let placeholderCode ← fields.optional? "electiveCourse" Document.text?
  return ⟨id, credits, year, programSpecific, query, placeholderCode⟩

/-- The requirements that a data text spells. -/
def listOfText? (s : String) : Option (List Requirement) :=
  (Document.ofText? s).bind (Document.list? nesting decode?)

/-- The requirement as data. -/
def toJson (r : Requirement) : Json :=
  .object (
    [("id", .text r.id), ("credits", .nat r.credits), ("year", .int r.year),
      ("programSpecific", .bool r.programSpecific), ("alternativeQuery", .text r.query)] ++
    optionalField "electiveCourse" .text r.placeholderCode)

end Requirement

/-- The kind of a program. -/
inductive ProgramKind where
  /-- A major. -/
  | major
  /-- A minor. -/
  | minor
  /-- An honours program. -/
  | honours
deriving DecidableEq, Repr, Inhabited

namespace ProgramKind

/-- The kinds by name. -/
def names : List (String × ProgramKind) :=
  [("MAJOR", .major), ("MINOR", .minor), ("HONOURS", .honours)]

/-- The name of a kind. -/
def name : ProgramKind → String
  | .major => "MAJOR"
  | .minor => "MINOR"
  | .honours => "HONOURS"

end ProgramKind

/-- A program of study. -/
structure Program where
  /-- The program's own name. -/
  id : String
  /-- The name that is shown. -/
  name : String := ""
  /-- Major, minor or honours. -/
  kind : ProgramKind
  /-- What the program asks for. -/
  requirements : List Requirement := []
deriving DecidableEq, Repr, Inhabited

namespace Program

/-- A minor. -/
def isMinor (p : Program) : Bool := p.kind == .minor

/-- The names of the fields, in order. -/
def fieldNames : List String := ["id", "name", "kind", "requirements"]

/-- The program that a document spells. -/
def decode? : Nat → Document → Option Program
  | 0, _ => none
  | depth + 1, d => do
    let fields ← d.record? (depth + 1) fieldNames
    let id ← fields.required? "id" Document.text?
    let name ← fields.withDefault? "name" "" Document.text?
    let kind ← fields.required? "kind" (Document.name? depth ProgramKind.names)
    let requirements ←
      fields.withDefault? "requirements" [] (Document.list? depth Requirement.decode?)
    return ⟨id, name, kind, requirements⟩

/-- The program that a data text spells. -/
def ofText? (s : String) : Option Program := (Document.ofText? s).bind (decode? nesting)

/-- The program as data. -/
def toJson (p : Program) : Json :=
  .object [("id", .text p.id), ("name", .text p.name), ("kind", .text p.kind.name),
    ("requirements", .array (p.requirements.map Requirement.toJson))]

end Program

end StudyPlan
