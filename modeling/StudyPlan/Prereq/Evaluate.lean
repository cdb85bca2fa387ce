import StudyPlan.Prereq.Node
import StudyPlan.Term

/-!
# Judging a prerequisite tree

A tree is judged for a course in a term against what is planned.  A course
counts as taken when it is planned in an earlier term, and a year of study is
reached by the term itself.  Some conditions cannot be checked here: credits,
programs, permissions, unknown rules, and rules without a usable value.  So
there are three outcomes, and a condition that cannot be checked neither fails a
tree nor makes it certain.

A failed tree says why: the reasons of the failed children from left to right,
then the node's own.  A tree that does not fail gives no reasons, except that a
condition without a usable value or with an unknown rule warns of itself.
-/

namespace StudyPlan

namespace Prereq

/-- How a tree is judged. -/
inductive Status where
  /-- It is met. -/
  | satisfied
  /-- It is not met. -/
  | unsatisfied
  /-- It is not failed, and not certain. -/
  | unevaluated
deriving DecidableEq, Repr

/-- The name of a status. -/
def Status.name : Status → String
  | .satisfied => "SATISFIED"
  | .unsatisfied => "UNSATISFIED"
  | .unevaluated => "UNEVALUATED"

/-- A judgement with its reasons. -/
structure Verdict where
  /-- The outcome. -/
  status : Status
  /-- Why the tree failed, or a warning. -/
  reasons : List String
deriving DecidableEq, Repr

namespace Verdict

/-- The tree is met. -/
def pass : Verdict := ⟨.satisfied, []⟩

/-- The tree is not failed, and not certain. -/
def unsure (reasons : List String) : Verdict := ⟨.unevaluated, reasons⟩

/-- The tree is not met. -/
def fail (reasons : List String) : Verdict := ⟨.unsatisfied, reasons⟩

/-- The tree did not fail. -/
def holds (v : Verdict) : Bool := v.status != .unsatisfied

/-- The tree is met for certain. -/
def certain (v : Verdict) : Bool := v.status == .satisfied

end Verdict

/-- Against what a tree is judged. -/
structure Setting where
  /-- The term of the judged course. -/
  term : Nat
  /-- The earliest term in which a code is planned. -/
  planned : String → Option Nat

/-- A course is planned before the term of the judged course. -/
def Setting.takenBefore (s : Setting) (code : String) : Bool :=
  match s.planned (Code.normalize code) with
  | some t => decide (t < s.term)
  | none => false

/-! ## Conditions -/

/-- A course has to be planned earlier. -/
def judgeCourse (s : Setting) (n : Node) : Verdict :=
  match n.text? with
  | none => .unsure ["COURSE condition without a course code"]
  | some code =>
    if s.takenBefore code then .pass else .fail [code ++ " is not in plan"]

/-- A year of study has to be reached. -/
def judgeYear (s : Setting) (n : Node) : Verdict :=
  match n.threshold? with
  | none => .unsure ["YEAR condition without a year"]
  | some y =>
    if y ≤ Term.year s.term then .pass
    else .fail ["Year requirement " ++ toString y ++ " not met"]

/-! ## Connectives -/

/-- The reasons of the failed children. -/
def failures (children : List Verdict) : List String :=
  (children.filter (!·.holds)).flatMap (·.reasons)

/-- All children have to hold. -/
def judgeAll (children : List Verdict) : Verdict :=
  if children.any (!·.holds) then .fail (failures children)
  else if children.any (·.status == .unevaluated) then .unsure []
  else .pass

/-- Some child has to hold. -/
def judgeAny (children : List Verdict) : Verdict :=
  if children.any (·.certain) then .pass
  else if children.any (·.holds) then .unsure []
  else .fail (failures children)

/-- A number of children has to hold. -/
def judgeAtLeast (n : Node) (children : List Verdict) : Verdict :=
  match n.threshold? with
  | none => .unsure ["N_OF condition without a threshold"]
  | some k =>
    let needed := k.toNat
    let held := children.countP (·.holds)
    if held < needed then
      .fail (failures children ++
        ["N_OF(" ++ toString needed ++ "): only " ++ toString held ++ " conditions passed"])
    else if needed ≤ children.countP (·.certain) then .pass
    else .unsure []

/-! ## Trees -/

/-- The judgement of a node, given those of its children. -/
def judge (s : Setting) (n : Node) (children : List Verdict) : Verdict :=
  match n.rule with
  | none => .pass
  | some .course => judgeCourse s n
  | some .all => judgeAll children
  | some .grade => judgeAll children
  | some .any => judgeAny children
  | some .atLeast => judgeAtLeast n children
  | some .year => judgeYear s n
  | some (.unknown name) => .unsure ["Unknown subtype " ++ name]
  | some _ => .unsure []

mutual

/-- The judgement of a tree. -/
def evaluate (s : Setting) : Node → Verdict
  | ⟨k, r, v, cs⟩ => judge s ⟨k, r, v, cs⟩ (evaluateAll s cs)

/-- The judgements of trees. -/
def evaluateAll (s : Setting) : List Node → List Verdict
  | [] => []
  | n :: ns => evaluate s n :: evaluateAll s ns

end

theorem evaluateAll_eq_map (s : Setting) (ns : List Node) :
    evaluateAll s ns = ns.map (evaluate s) := by
  induction ns with
  | nil => rfl
  | cons n ns ih => simp [evaluateAll, ih]

end Prereq

end StudyPlan
