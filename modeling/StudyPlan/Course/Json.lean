import StudyPlan.Course.Basic
import StudyPlan.Prereq.Json

/-!
# Courses as data

A course is an object with at least a code and credits.  The four offerings
stand among its fields.  Its fields have to be readable even where they are not
known, which is more than is asked of the fields of other records.
-/

namespace StudyPlan

open Json

namespace Offerings

/-- The names of the fields, in order. -/
def fieldNames : List String := ["winterTerm1", "winterTerm2", "summerTerm1", "summerTerm2"]

/-- The offerings that fields give; not offered where nothing is said. -/
def ofFields? (bool? : String → Option Bool) : Option Offerings := do
  let w1 ← bool? "winterTerm1"
  let w2 ← bool? "winterTerm2"
  let s1 ← bool? "summerTerm1"
  let s2 ← bool? "summerTerm2"
  return ⟨w1, w2, s1, s2⟩

/-- The offerings that a document spells. -/
def decode? (depth : Nat) (d : Document) : Option Offerings := do
  let fields ← d.record? depth fieldNames
  ofFields? fun key => fields.withDefault? key false Document.bool?

/-- The fields of the offerings. -/
def toFields (o : Offerings) : List (String × Json) :=
  [("winterTerm1", .bool o.winter1), ("winterTerm2", .bool o.winter2),
    ("summerTerm1", .bool o.summer1), ("summerTerm2", .bool o.summer2)]

end Offerings

namespace Course

/-- The names of the fields, those of the offerings apart. -/
def fieldNames : List String :=
  ["code", "name", "credits", "isHonours", "faculty", "preRequisites", "preRequisiteString",
    "isElectivePlaceholder"]

/-- The fields with other names have readable values. -/
def othersReadable (depth : Nat) (fields : List (Option String × Document)) : Bool :=
  fields.all fun (key, d) =>
    match key with
    | some k => fieldNames.contains k || (d.value? depth).isSome
    | none => false

/-- The course that a document spells. -/
def decode? : Nat → Document → Option Course
  | depth + 1, .object parts => do
    let fields ← Document.listedFields? (fieldNames ++ Offerings.fieldNames) parts
    if !othersReadable depth parts then none
    else
      let code ← fields.required? "code" Document.text?
      let name ← fields.withDefault? "name" "" Document.text?
      let credits ← fields.required? "credits" (Document.nat? Document.max32)
      let offerings ← Offerings.ofFields? fun key => fields.withDefault? key false Document.bool?
      let isHonours ← fields.withDefault? "isHonours" false Document.bool?
      let faculty ← fields.optional? "faculty" (Document.name? depth Faculty.names)
      let tree ← fields.optional? "preRequisites" (Prereq.Node.decode? depth)
      let text ← fields.optional? "preRequisiteString" Document.text?
      let isPlaceholder ← fields.withDefault? "isElectivePlaceholder" false Document.bool?
      return ⟨code, name, credits, offerings, isHonours, faculty, tree, text, isPlaceholder⟩
  | _, _ => none

/-- The courses that a data text spells. -/
def listOfText? (s : String) : Option (List Course) :=
  (Document.ofText? s).bind (Document.list? nesting decode?)

/-- The course that a data text spells. -/
def ofText? (s : String) : Option Course := (Document.ofText? s).bind (decode? nesting)

/-- The course as data. -/
def toJson (c : Course) : Json :=
  .object (
    [("code", .text c.code), ("name", .text c.name), ("credits", .nat c.credits)] ++
    c.offerings.toFields ++
    [("isHonours", .bool c.isHonours)] ++
    optionalField "faculty" (.text ·.name) c.givenFaculty ++
    optionalField "preRequisites" Prereq.Node.toJson c.prerequisites ++
    optionalField "preRequisiteString" .text c.prerequisiteText ++
    [("isElectivePlaceholder", .bool c.isPlaceholder)])

end Course

end StudyPlan
