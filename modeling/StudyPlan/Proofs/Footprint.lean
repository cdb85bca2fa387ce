import StudyPlan.Proofs.Certainty
import StudyPlan.Proofs.Reasons

/-!
# What a judgement looks at

The codes of a tree are all that its judgement takes from a plan.  If two plans agree,
for each of them, on whether it is planned before the judged course, then the judgement
is the same, and so are its reasons (`evaluate_congr`).

Codes and judgement are gathered on two walks through the tree.  They meet at each node
that asks for a course: the code that the node names is the one under which the course
is looked up, and nothing else is (`judge_congr`).  Only a node that asks for a year looks
at the term itself (`Setting.SameFor`).  Below a leaf or a node that is not
checked the codes are gathered and never looked up, so that two plans may well differ on
a code without a difference in the judgement.
-/

namespace StudyPlan

namespace Prereq

/-- A code is planned, in this very spelling, before the term of the judged course. -/
def Setting.plannedBefore (s : Setting) (code : String) : Bool :=
  (s.planned code).any fun t => decide (t < s.term)

theorem takenBefore_eq_plannedBefore (s : Setting) (code : String) :
    s.takenBefore code = s.plannedBefore (Code.normalize code) := takenBefore_eq s code

variable {s s' : Setting}

theorem judgeCourse_congr {n : Node} (hrule : n.rule = some .course)
    (h : ∀ code, n.ownCode? = some code → s.plannedBefore code = s'.plannedBefore code) :
    judgeCourse s n = judgeCourse s' n := by
  unfold judgeCourse
  cases htext : n.text? with
  | none => rfl
  | some code =>
    have hcode : n.ownCode? = some (Code.normalize code) := by
      rw [Node.ownCode?, if_pos hrule, htext, Option.map_some]
    simp only [takenBefore_eq_plannedBefore, h _ hcode]

/-- Two settings that are the same to a node: it asks for a year in which both are, and for
a code that is planned before both or before neither. -/
structure Setting.SameFor (s s' : Setting) (n : Node) : Prop where
  year : n.rule = some .year → Term.year s.term = Term.year s'.term
  code : ∀ code, n.ownCode? = some code → s.plannedBefore code = s'.plannedBefore code

/-- The judgement of a node takes no more from a plan than the code that the node names. -/
theorem judge_congr {n : Node} (h : s.SameFor s' n) (children : List Verdict) :
    judge s n children = judge s' n children := by
  unfold judge
  split
  next => rfl
  next hrule => exact judgeCourse_congr hrule h.code
  next => rfl
  next => rfl
  next => rfl
  next => rfl
  next hrule => rw [judgeYear, judgeYear, h.year hrule]
  next => rfl
  next => rfl

/-- Settings that are the same to all nodes of a tree give the same judgement. -/
theorem evaluate_congr_nodes :
    ∀ n : Node, (∀ m ∈ n.nodes, s.SameFor s' m) → evaluate s n = evaluate s' n := by
  refine Node.induct fun n ih h => ?_
  have hchildren : n.children.map (evaluate s) = n.children.map (evaluate s') := by
    refine List.map_congr_left fun c hc => ih c hc ?_
    intro m hm
    exact h m (Node.nodes_subset hc hm)
  rw [evaluate_eq, evaluate_eq, hchildren]
  exact judge_congr (h n n.self_mem_nodes) _

theorem evaluate_congr_codeList (hterm : s.term = s'.term) {n : Node}
    (h : ∀ code ∈ n.codeList, s.plannedBefore code = s'.plannedBefore code) :
    evaluate s n = evaluate s' n := by
  refine evaluate_congr_nodes n fun m hm => ⟨fun _ => by rw [hterm], fun code hcode => ?_⟩
  exact h code (Node.mem_codeList hcode hm)

/-- Two plans that agree on which codes of a tree are planned before a term give the
same judgement. -/
theorem evaluate_congr {n : Node} {term : Nat} {planned planned' : String → Option Nat}
    (h : ∀ code ∈ n.codes,
      Setting.plannedBefore ⟨term, planned⟩ code = Setting.plannedBefore ⟨term, planned'⟩ code) :
    evaluate ⟨term, planned⟩ n = evaluate ⟨term, planned'⟩ n := by
  have hterm : (⟨term, planned⟩ : Setting).term = (⟨term, planned'⟩ : Setting).term := rfl
  exact evaluate_congr_codeList hterm fun code hcode => h code (CodeSet.mem_ofList.2 hcode)

/-- Two courses, of which the second is named below a leaf. -/
def mechanics : Node :=
  ⟨some .root, some .all, none,
    [⟨some .leaf, some .course, some (.text "math100"), []⟩,
      ⟨some .leaf, some .permission, none,
        [⟨some .leaf, some .course, some (.text "PHYS 111"), []⟩]⟩]⟩

/-- The first course is planned in a term, and a third one beside it. -/
def besides (term : Nat) (other code : String) : Option Nat :=
  if code = "MATH 100" then some term else if code = other then some 1 else none

/-- Another term before the judged course, and another course beside, make no difference. -/
theorem evaluate_congr_mechanics :
    mechanics.codes = ["MATH 100", "PHYS 111"] ∧
    (∀ code ∈ mechanics.codes, Setting.plannedBefore ⟨4, besides 1 "CHEM 111"⟩ code
      = Setting.plannedBefore ⟨4, besides 3 "BIOL 111"⟩ code) ∧
    evaluate ⟨4, besides 1 "CHEM 111"⟩ mechanics = ⟨.unevaluated, []⟩ ∧
    evaluate ⟨4, besides 1 "CHEM 111"⟩ mechanics
      = evaluate ⟨4, besides 3 "BIOL 111"⟩ mechanics := by
  have hcodes : mechanics.codes = ["MATH 100", "PHYS 111"] := by decide +kernel
  have h : ∀ code ∈ mechanics.codes, Setting.plannedBefore ⟨4, besides 1 "CHEM 111"⟩ code
      = Setting.plannedBefore ⟨4, besides 3 "BIOL 111"⟩ code := by
    rw [hcodes]
    decide
  exact ⟨hcodes, h, by decide +kernel, evaluate_congr h⟩

end Prereq

end StudyPlan
