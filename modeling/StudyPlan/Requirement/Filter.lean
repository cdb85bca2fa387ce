import StudyPlan.Catalog

/-!
# Queries

A query describes a pool of courses in one of two ways.  If `ELEC` occurs in it,
in any case of letters, it is a *filter*: its parts between underscores narrow
the courses of the catalogue down, each part further.  Otherwise it lists codes
between semicolons; codes without a course and repeated courses drop out.

The parts of a filter are `UL` (upper level), `SCI`, `NONSCI`, a subject of four
letters and a level of one digit.  The part `ELEC`, empty parts and parts that
mean nothing narrow nothing.
-/

namespace StudyPlan

open Text

/-- A part of a filter. -/
inductive FilterPart where
  /-- A course of level 3, 4 or 5. -/
  | upperLevel
  /-- A course of the faculty of science. -/
  | science
  /-- A course of any other faculty. -/
  | notScience
  /-- A course of a subject. -/
  | subject (s : String)
  /-- A course of a level. -/
  | level (n : Nat)
deriving DecidableEq, Repr

namespace FilterPart

/-- A course passes the part. -/
def admits : FilterPart → Course → Bool
  | .upperLevel, c => c.isUpperLevel
  | .science, c => c.faculty == .science
  | .notScience, c => c.faculty != .science
  | .subject s, c => c.subject == s
  | .level n, c => c.level? == some n

/-- The part that a text spells. -/
def ofText? (s : String) : Option FilterPart :=
  let t := upper (trim s)
  if t = "UL" then some .upperLevel
  else if t = "SCI" then some .science
  else if t = "NONSCI" then some .notScience
  else
    match t.toList with
    | [c] => (asciiDigit? c).map .level
    | cs => if cs.length = 4 ∧ cs.all Code.isAsciiLetter then some (.subject t) else none

end FilterPart

namespace Query

/-- The word that makes a query a filter. -/
def marker : String := "ELEC"

/-- The query is a filter. -/
def isFilter (query : String) : Bool := contains (upper query) marker

/-- The text is the marker, in any case of ASCII letters. -/
def isMarker (s : String) : Bool := s.toList.map Char.toUpper == marker.toList

/-- The parts of a filter that mean something. -/
def parts (query : String) : List FilterPart :=
  ((splitAt '_' query).map trim).filterMap fun s =>
    if s.isEmpty ∨ isMarker s then none else FilterPart.ofText? s

/-- The courses without later repetitions of a code. -/
def distinct (seen : List String) : List Course → List Course
  | [] => []
  | c :: rest =>
    if seen.contains c.code then distinct seen rest else c :: distinct (c.code :: seen) rest

/-- The courses that pass every part, in the order of the catalogue. -/
def filtered (catalog : Catalog) (query : String) : List Course :=
  catalog.concrete.filter fun c => (parts query).all (·.admits c)

/-- The courses of a list of codes, in the order of the list. -/
def listed (catalog : Catalog) (query : String) : List Course :=
  let codes := ((splitAt ';' query).map trim).filter (!·.isEmpty)
  distinct [] (codes.filterMap fun s => catalog.get? (Code.normalize s))

/-- The courses that a query describes. -/
def pool (catalog : Catalog) (query : String) : List Course :=
  if isFilter query then filtered catalog query else listed catalog query

end Query

end StudyPlan
