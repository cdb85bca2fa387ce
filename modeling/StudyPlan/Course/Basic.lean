import StudyPlan.Prereq.Node
import StudyPlan.Term

/-!
# Courses

A course of the catalogue: its code, credits, the terms in which it is offered
and what it asks for.  A *placeholder* stands in a plan for a course that is
still to be chosen.

What a course asks for is given as a tree, as running text, or both.
`Course.prerequisiteCodes` gathers the codes of either, without the course's
own.
-/

namespace StudyPlan

/-! ## Faculties -/

/-- The faculty of a course. -/
inductive Faculty where
  /-- Science. -/
  | science
  /-- Arts. -/
  | arts
  /-- Any other. -/
  | other
deriving DecidableEq, Repr

namespace Faculty

/-- The faculties by name. -/
def names : List (String × Faculty) := [("SCI", .science), ("ART", .arts), ("OTHER", .other)]

/-- The name of a faculty. -/
def name : Faculty → String
  | .science => "SCI"
  | .arts => "ART"
  | .other => "OTHER"

/-- The subjects of science. -/
def scienceSubjects : List String := [
  "APSC", "ASTR", "BIOC", "BIOL", "CHEM", "COSC", "DATA", "EESC", "ENGR", "GISC", "HES", "HINT",
  "MANF", "MATH", "PHYS", "PSYO", "STAT"]

/-- The subjects of arts. -/
def artsSubjects : List String := [
  "ANTH", "ARTH", "CCS", "CHIN", "CORH", "CRWR", "CULT", "CUST", "DICE", "DIHU", "EADM", "EAP",
  "ECED", "ECON", "EDLL", "EDST", "EDUC", "ENGL", "EPSE", "ETEC", "FILM", "FREN", "GEOG", "GERM",
  "GWST", "HEAL", "HIST", "INDG", "INLG", "JPST", "KORN", "LATN", "LLED", "MDST", "MGMT", "NLEK",
  "NRSG", "NSYL", "PHIL", "POLI", "SECH", "SOCI", "SOCW", "SPAN", "STMC", "SUST", "THTR", "VISA",
  "WRLD"]

/-- The faculty that teaches the subject of a code. -/
def ofCode (code : String) : Faculty :=
  if scienceSubjects.contains (Code.subject code) then .science
  else if artsSubjects.contains (Code.subject code) then .arts
  else .other

end Faculty

/-! ## Kinds of elective slots -/

/-- How a substitute for a placeholder is found. -/
inductive ElectiveKind where
  /-- By searching. -/
  | search
  /-- By choosing from the whole pool. -/
  | choice
deriving DecidableEq, Repr

namespace ElectiveKind

/-- The kinds by name. -/
def names : List (String × ElectiveKind) := [("ELEC", .search), ("CHOICE", .choice)]

/-- The name of a kind. -/
def name : ElectiveKind → String
  | .search => "ELEC"
  | .choice => "CHOICE"

/-- The kind of a placeholder: a choice if its code says so in any case of letters. -/
def ofPlaceholder (code : String) : ElectiveKind :=
  if Text.contains (Text.upper code) "CHOICE" then .choice else .search

end ElectiveKind

/-! ## Courses -/

/-- A course of the catalogue. -/
structure Course where
  /-- The code under which the course is kept. -/
  code : String
  /-- The name. -/
  name : String := ""
  /-- The credits. -/
  credits : Nat
  /-- In which terms the course is offered. -/
  offerings : Offerings := {}
  /-- An honours course. -/
  isHonours : Bool := false
  /-- The faculty, if it is not the one of the subject. -/
  givenFaculty : Option Faculty := none
  /-- What the course asks for, as a tree. -/
  prerequisites : Option Prereq.Node := none
  /-- What the course asks for, as running text. -/
  prerequisiteText : Option String := none
  /-- The course stands for one that is still to be chosen. -/
  isPlaceholder : Bool := false
deriving DecidableEq, Repr, Inhabited

namespace Course

/-- The faculty, by subject if none is given. -/
def faculty (c : Course) : Faculty := c.givenFaculty.getD (Faculty.ofCode c.code)

/-- The subject. -/
def subject (c : Course) : String := Code.subject c.code

/-- The number. -/
def number (c : Course) : String := Code.number c.code

/-- The level: the first digit of the number. -/
def level? (c : Course) : Option Nat := Code.level? c.code

/-- A course of level 3, 4 or 5. -/
def isUpperLevel (c : Course) : Bool :=
  match c.level? with
  | some n => decide (3 ≤ n) && decide (n ≤ 5)
  | none => false

/-- The codes of the courses that a course asks for. -/
def prerequisiteCodes (c : Course) : CodeSet :=
  let fromTree := (c.prerequisites.map (·.codes)).getD []
  let fromText := (c.prerequisiteText.map Code.inText).getD []
  (CodeSet.union fromTree fromText).erase c.code

/-- The course with its code in the one spelling. -/
def normalized (c : Course) : Course := { c with code := Code.normalize c.code }

/-- A course may be taken in a term by its offerings.  A course offered in no
winter term may be taken in any. -/
def fits (c : Course) (term : Nat) : Bool :=
  !c.offerings.anyWinter || c.offerings.has (Term.slot term)

end Course

/-! ## Credits -/

/-- The sum of the credits of some courses. -/
def creditSum (courses : List Course) : Nat := (courses.map (·.credits)).foldr (· + ·) 0

/-- The credits of some courses, as far as their word holds them. -/
def totalCredits (courses : List Course) : Nat := Word.low32 (creditSum courses)

end StudyPlan
