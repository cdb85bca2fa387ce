import StudyPlan.Binary64.Read
import StudyPlan.Binary64.Shortest
import StudyPlan.Course.Code
import StudyPlan.Json.Printer

/-!
# Prerequisite trees

What a course asks for is a tree.  A node has a *rule*: a connective over its
children (all of them, any of them, a number of them), or a condition (a course,
a year of study, a permission, …).  A node without a rule asks for nothing.  A
rule that is not known keeps its name, so that it can be reported.

The value of a node is a course code, a threshold or a year.  It comes as a
number, as a text or as some other data value, and is read as a text
(`Operand.text?`) or as a whole number (`Operand.threshold?`) where the rule
needs one.
-/

namespace StudyPlan

namespace Prereq

/-! ## Kinds and rules -/

/-- Where a node stands in its tree. -/
inductive Kind where
  /-- The root. -/
  | root
  /-- A node between root and leaves. -/
  | inner
  /-- A leaf. -/
  | leaf
deriving DecidableEq, Repr

/-- The kinds by name. -/
def Kind.names : List (String × Kind) := [("ROOT", .root), ("INNER", .inner), ("LEAF", .leaf)]

/-- The name of a kind. -/
def Kind.name : Kind → String
  | .root => "ROOT"
  | .inner => "INNER"
  | .leaf => "LEAF"

/-- The kind of a name in any case of letters, with blanks around it or not. -/
def Kind.ofName? (s : String) : Option Kind := Kind.names.lookup (Text.upper (Text.trim s))

/-- What a node asks for. -/
inductive Rule where
  /-- All children. -/
  | all
  /-- Any child. -/
  | any
  /-- A number of children. -/
  | atLeast
  /-- A number of credits among the children. -/
  | creditsAmong
  /-- All children, with a grade. -/
  | grade
  /-- A course. -/
  | course
  /-- A year of study. -/
  | year
  /-- A program. -/
  | program
  /-- A permission. -/
  | permission
  /-- A number of credits. -/
  | credits
  /-- A department. -/
  | department
  /-- A major. -/
  | major
  /-- Something that is not known. -/
  | unknown (name : String)
deriving DecidableEq, Repr

/-- The known rules by name. -/
def Rule.names : List (String × Rule) :=
  [("AND", .all), ("OR", .any), ("N_OF", .atLeast), ("N_CREDITS_OF", .creditsAmong),
    ("GRADE", .grade), ("COURSE", .course), ("YEAR", .year), ("PROGRAM", .program),
    ("PERMISSION", .permission), ("CREDITS", .credits), ("DEPARTMENT", .department),
    ("MAJOR", .major)]

/-- The name of a rule. -/
def Rule.name : Rule → String
  | .all => "AND"
  | .any => "OR"
  | .atLeast => "N_OF"
  | .creditsAmong => "N_CREDITS_OF"
  | .grade => "GRADE"
  | .course => "COURSE"
  | .year => "YEAR"
  | .program => "PROGRAM"
  | .permission => "PERMISSION"
  | .credits => "CREDITS"
  | .department => "DEPARTMENT"
  | .major => "MAJOR"
  | .unknown name => name

/-- The rule of a name in any case of letters, with blanks around it or not. -/
def Rule.ofName (s : String) : Rule :=
  let name := Text.upper (Text.trim s)
  (Rule.names.lookup name).getD (.unknown name)

/-- The rule is one of the known ones. -/
def Rule.isKnown : Rule → Bool
  | .unknown _ => false
  | _ => true

/-! ## Values -/

/-- The value of a node. -/
inductive Operand where
  /-- A number. -/
  | number (x : Binary64)
  /-- A text. -/
  | text (s : String)
  /-- Any other data value. -/
  | other (v : Json)
deriving DecidableEq, Repr

/-- The value as a text, if it is a text or a number. -/
def Operand.text? : Operand → Option String
  | .number x => some x.plainText
  | .text s => some s
  | .other _ => none

/-- The value as a whole number, rounded down and kept within 64 bits: of a
finite number, or of a text that spells a number. -/
def Operand.threshold? : Operand → Option Int
  | .number x => if x.isFinite then some x.floorInt64 else none
  | .text s => (Binary64.read? (Text.trim s)).map (·.floorInt64)
  | .other _ => none

/-- The value as it is shown. -/
def Operand.shown : Operand → String
  | .number x => if x.isWhole then toString x.floorInt64 else x.plainText
  | .text s => s
  | .other v => v.compact

/-! ## Nodes -/

/-- A node of a prerequisite tree. -/
structure Node where
  /-- Where the node stands, if it says so. -/
  kind : Option Kind
  /-- What the node asks for. -/
  rule : Option Rule
  /-- The value that the rule refers to. -/
  value : Option Operand
  /-- The children, from left to right. -/
  children : List Node
deriving Repr, Inhabited

namespace Node

/-- The node that asks for nothing. -/
def free : Node := ⟨none, none, none, []⟩

/-- The value as a text. -/
def text? (n : Node) : Option String := n.value.bind Operand.text?

/-- The value as a whole number. -/
def threshold? (n : Node) : Option Int := n.value.bind Operand.threshold?

mutual

/-- Two nodes are the same. -/
def same : Node → Node → Bool
  | ⟨k, r, v, cs⟩, ⟨k', r', v', cs'⟩ =>
    decide (k = k') && decide (r = r') && decide (v = v') && sameAll cs cs'

/-- Two lists of nodes are the same. -/
def sameAll : List Node → List Node → Bool
  | [], [] => true
  | a :: as, b :: bs => same a b && sameAll as bs
  | _, _ => false

end

mutual

theorem same_iff : (a b : Node) → (same a b = true ↔ a = b)
  | ⟨k, r, v, cs⟩, ⟨k', r', v', cs'⟩ => by simp [same, sameAll_iff cs cs', and_assoc]

theorem sameAll_iff : (as bs : List Node) → (sameAll as bs = true ↔ as = bs)
  | [], bs => by cases bs <;> simp [sameAll]
  | a :: as, bs => by
    cases bs with
    | nil => simp [sameAll]
    | cons b bs => simp [sameAll, same_iff a b, sameAll_iff as bs]

end

instance : DecidableEq Node := fun a b => decidable_of_iff _ (same_iff a b)

/-- The code that a node itself names, if it asks for a course. -/
def ownCode? (n : Node) : Option String :=
  if n.rule = some .course then n.text?.map Code.normalize else none

mutual

/-- The codes of the courses that a tree asks for, node before children. -/
def codeList : Node → List String
  | ⟨k, r, v, cs⟩ => (ownCode? ⟨k, r, v, cs⟩).toList ++ codeLists cs

/-- The codes of the courses that the trees ask for. -/
def codeLists : List Node → List String
  | [] => []
  | n :: ns => codeList n ++ codeLists ns

end

/-- The codes of the courses that a tree asks for. -/
def codes (n : Node) : CodeSet := CodeSet.ofList n.codeList

end Node

end Prereq

end StudyPlan
