import StudyPlan.Term
import StudyPlan.Text.Blank
import StudyPlan.Text.Digit

/-!
# Settings

How full a term may be, how many terms a new plan has, where plans are kept, and
from which seed random choices are made.  They come from variables; one that is
missing or does not spell a number in range leaves the default.  A number may
have a plus sign in front and blanks around it.
-/

namespace StudyPlan

/-- The settings of the planner. -/
structure Settings where
  /-- How many courses a term has room for. -/
  maxPerTerm : Nat := 5
  /-- The number of terms of a new plan. -/
  defaultTerms : Nat := 16
  /-- Where plans are kept. -/
  archivePath : String := "data/plans.db"
  /-- The seed of random choices, if they are to be repeatable. -/
  seed : Option Nat := none
deriving DecidableEq, Repr, Inhabited

namespace Settings

/-- The value of ASCII digits, at least one. -/
def digits? (cs : List Char) : Option Nat :=
  if cs.isEmpty ∨ !cs.all Text.isAsciiDigit then none else some (Text.digitsValue 0 cs)

/-- The number up to a bound that a text spells. -/
def readNat? (high : Nat) (s : String) : Option Nat :=
  let digits :=
    match s.toList with
    | '+' :: cs => cs
    | cs => cs
  (digits? digits).filter (· ≤ high)

/-- The text after a mark at its front. -/
def after? (mark s : String) : Option String :=
  if mark.toList.isPrefixOf s.toList then some (String.ofList (s.toList.drop mark.length))
  else none

/-- The path that a path or an address of a file names. -/
def pathOf (s : String) : String :=
  ((after? "sqlite://" s).orElse fun _ => after? "file://" s).getD s

/-- The names of the variables that settings come from. -/
def variableNames : List String :=
  ["DEGREEPLAN_MAX_PER_TERM", "DEGREEPLAN_NUM_TERMS", "DEGREEPLAN_DB_PATH", "DEGREEPLAN_SEED"]

/-- The settings that variables give. -/
def ofVariables (valueOf : String → Option String) : Settings :=
  let number? (name : String) (high : Nat) : Option Nat :=
    (valueOf name).bind fun s => readNat? high (Text.trim s)
  let defaults : Settings := {}
  { maxPerTerm :=
      ((number? "DEGREEPLAN_MAX_PER_TERM" (UInt64.size - 1)).filter (· ≠ 0)).getD defaults.maxPerTerm
    defaultTerms :=
      match number? "DEGREEPLAN_NUM_TERMS" (UInt32.size - 1) with
      | some n => Term.roundUp n
      | none => defaults.defaultTerms
    archivePath := ((valueOf "DEGREEPLAN_DB_PATH").map pathOf).getD defaults.archivePath
    seed := number? "DEGREEPLAN_SEED" (UInt64.size - 1) }

end Settings

end StudyPlan
