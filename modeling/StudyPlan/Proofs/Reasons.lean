import StudyPlan.Prereq.Evaluate
import StudyPlan.Course.Basic

/-!
# Why a tree fails

What passes from the children to a node holds of every tree (`Node.induct`).
`Node.nodes` lists a tree's nodes, itself first.  Every code that one of them names
is among the codes of the tree (`mem_codeList`).

A judgement gives reasons by its outcome (`Verdict.Tells`): a failed node gives those of
its failed children and then a message of its own, a node that is met gives none, and a
node that is not certain at most a warning about itself (`tells_judge`).

So the reasons of a failed tree come from below: each is the message of one of its
nodes, and `Explains` lists what it can be.  A course that is not taken is named by
a node of the tree that asks for it.  A tree that does not fail gives a reason only
as a warning about itself (`Warns`), since a warning does not fail the tree above.
-/

namespace StudyPlan

namespace Prereq

/-! ## Nodes -/

namespace Node

mutual

/-- What holds of a node if it holds of its children holds of every tree. -/
theorem induct {P : Node → Prop} (step : ∀ n : Node, (∀ c ∈ n.children, P c) → P n) :
    ∀ n : Node, P n
  | ⟨k, r, v, cs⟩ => step ⟨k, r, v, cs⟩ (inductAll step cs)

theorem inductAll {P : Node → Prop} (step : ∀ n : Node, (∀ c ∈ n.children, P c) → P n) :
    ∀ ns : List Node, ∀ n ∈ ns, P n
  | [] => List.forall_mem_nil P
  | n :: ns => List.forall_mem_cons.2 ⟨induct step n, inductAll step ns⟩

end

mutual

/-- The nodes of a tree, node before children. -/
def nodes : Node → List Node
  | ⟨k, r, v, cs⟩ => ⟨k, r, v, cs⟩ :: nodesAll cs

/-- The nodes of trees. -/
def nodesAll : List Node → List Node
  | [] => []
  | n :: ns => nodes n ++ nodesAll ns

end

theorem self_mem_nodes (n : Node) : n ∈ n.nodes := by
  obtain ⟨k, r, v, cs⟩ := n
  rw [nodes]
  exact List.mem_cons_self ..

theorem nodesAll_subset {n m : Node} (hm : m ∈ n.nodes) :
    ∀ {ns : List Node}, n ∈ ns → m ∈ nodesAll ns
  | n' :: ns, hn => by
    rw [nodesAll, List.mem_append]
    cases List.mem_cons.1 hn with
    | inl heq => exact Or.inl (heq ▸ hm)
    | inr hrest => exact Or.inr (nodesAll_subset hm hrest)

theorem nodes_subset {n m c : Node} (hc : c ∈ n.children) (hm : m ∈ c.nodes) : m ∈ n.nodes := by
  obtain ⟨k, r, v, cs⟩ := n
  rw [nodes]
  exact List.mem_cons_of_mem _ (nodesAll_subset hm hc)

mutual

/-- The code that a node of a tree names is among the codes of the tree. -/
theorem mem_codeList {m : Node} {code : String} (hcode : m.ownCode? = some code) :
    ∀ {n : Node}, m ∈ n.nodes → code ∈ n.codeList
  | ⟨k, r, v, cs⟩, hm => by
    rw [nodes] at hm
    rw [codeList, List.mem_append]
    cases List.mem_cons.1 hm with
    | inl heq =>
      subst heq
      rw [hcode]
      exact Or.inl (List.mem_singleton.2 rfl)
    | inr hbelow => exact Or.inr (mem_codeLists hcode hbelow)

theorem mem_codeLists {m : Node} {code : String} (hcode : m.ownCode? = some code) :
    ∀ {ns : List Node}, m ∈ nodesAll ns → code ∈ codeLists ns
  | [], hm => nomatch hm
  | n :: ns, hm => by
    rw [nodesAll, List.mem_append] at hm
    rw [codeLists, List.mem_append]
    cases hm with
    | inl hn => exact Or.inl (mem_codeList hcode hn)
    | inr hrest => exact Or.inr (mem_codeLists hcode hrest)

end

end Node

variable {s : Setting}

theorem evaluate_eq (s : Setting) (n : Node) :
    evaluate s n = judge s n (n.children.map (evaluate s)) := by
  obtain ⟨k, r, v, cs⟩ := n
  rw [evaluate, evaluateAll_eq_map]

theorem holds_eq_false {v : Verdict} : v.holds = false ↔ v.status = .unsatisfied := by
  simp [Verdict.holds]

/-! ## What one node says -/

namespace Node

/-- The node is judged by its children. -/
def isConnective (n : Node) : Bool :=
  match n.rule with
  | some .all => true
  | some .grade => true
  | some .any => true
  | some .atLeast => true
  | _ => false

/-- What a failed node says for itself, when a number of its children hold. -/
def message? (n : Node) (held : Nat) : Option String :=
  match n.rule with
  | some .course => n.text?.map fun code => code ++ " is not in plan"
  | some .year => n.threshold?.map fun y => "Year requirement " ++ toString y ++ " not met"
  | some .atLeast => n.threshold?.map fun k =>
      "N_OF(" ++ toString k.toNat ++ "): only " ++ toString held ++ " conditions passed"
  | _ => none

/-- What a node warns of that has no usable value or no known rule. -/
def warning? (n : Node) : Option String :=
  match n.rule with
  | some .course =>
    if n.text?.isNone then some "COURSE condition without a course code" else none
  | some .year => if n.threshold?.isNone then some "YEAR condition without a year" else none
  | some .atLeast =>
    if n.threshold?.isNone then some "N_OF condition without a threshold" else none
  | some (.unknown name) => some ("Unknown subtype " ++ name)
  | _ => none

end Node

/-- What a judgement gives as reasons, by its outcome. -/
structure Verdict.Tells (v : Verdict) (why : List String) (warning : Option String) : Prop where
  /-- A failed tree gives these reasons, in this order. -/
  failed : v.status = .unsatisfied → v.reasons = why
  /-- A tree that is met gives none. -/
  met : v.status = .satisfied → v.reasons = []
  /-- A tree that is not certain gives this warning, if there is one. -/
  unsure : v.status = .unevaluated → v.reasons = warning.toList

namespace Verdict

variable {why reasons : List String} {warning : Option String}

theorem tells_pass : pass.Tells why warning where
  failed h := nomatch h
  met _ := rfl
  unsure h := nomatch h

theorem tells_fail (h : reasons = why) : (fail reasons).Tells why warning where
  failed _ := h
  met h := nomatch h
  unsure h := nomatch h

theorem tells_unsure (h : reasons = warning.toList) :
    (Verdict.unsure reasons).Tells why warning where
  failed h := nomatch h
  met h := nomatch h
  unsure _ := h

end Verdict

/-- The reasons of a failed node, by those of its children. -/
def nodeReasons (n : Node) (children : List Verdict) : List String :=
  (if n.isConnective then failures children else [])
    ++ (n.message? (children.countP (·.holds))).toList

section Tells

variable {n : Node} {children : List Verdict}

/-- A node that asks for all or any of its children has nothing to add. -/
theorem nodeReasons_eq_failures
    (hrule : (n.rule = some .all ∨ n.rule = some .grade) ∨ n.rule = some .any) :
    nodeReasons n children = failures children := by
  rcases hrule with (hrule | hrule) | hrule <;>
    simp [nodeReasons, Node.isConnective, Node.message?, hrule]

theorem tells_judgeCourse (hrule : n.rule = some .course) :
    (judgeCourse s n).Tells (nodeReasons n children) n.warning? := by
  unfold judgeCourse
  cases htext : n.text? with
  | none => exact Verdict.tells_unsure (by simp [Node.warning?, hrule, htext])
  | some code =>
    cases htaken : s.takenBefore code with
    | true => simpa only [htaken, if_true] using Verdict.tells_pass
    | false =>
      have hwhy : [code ++ " is not in plan"] = nodeReasons n children := by
        simp [nodeReasons, Node.isConnective, Node.message?, hrule, htext]
      simpa only [htaken, Bool.false_eq_true, if_false] using Verdict.tells_fail hwhy

theorem tells_judgeYear (hrule : n.rule = some .year) :
    (judgeYear s n).Tells (nodeReasons n children) n.warning? := by
  unfold judgeYear
  cases hyear : n.threshold? with
  | none => exact Verdict.tells_unsure (by simp [Node.warning?, hrule, hyear])
  | some y =>
    simp only
    split
    · exact Verdict.tells_pass
    · refine Verdict.tells_fail ?_
      simp [nodeReasons, Node.isConnective, Node.message?, hrule, hyear]

theorem tells_judgeAll {warning : Option String} (hwarning : warning = none) :
    (judgeAll children).Tells (failures children) warning := by
  subst hwarning
  unfold judgeAll
  split
  · exact Verdict.tells_fail rfl
  · split
    · exact Verdict.tells_unsure rfl
    · exact Verdict.tells_pass

theorem tells_judgeAny {warning : Option String} (hwarning : warning = none) :
    (judgeAny children).Tells (failures children) warning := by
  subst hwarning
  unfold judgeAny
  split
  · exact Verdict.tells_pass
  · split
    · exact Verdict.tells_unsure rfl
    · exact Verdict.tells_fail rfl

theorem tells_judgeAtLeast (hrule : n.rule = some .atLeast) :
    (judgeAtLeast n children).Tells (nodeReasons n children) n.warning? := by
  unfold judgeAtLeast
  cases hneeded : n.threshold? with
  | none => exact Verdict.tells_unsure (by simp [Node.warning?, hrule, hneeded])
  | some k =>
    simp only
    split
    · refine Verdict.tells_fail ?_
      simp [nodeReasons, Node.isConnective, Node.message?, hrule, hneeded]
    · split
      · exact Verdict.tells_pass
      · exact Verdict.tells_unsure (by simp [Node.warning?, hrule, hneeded])

/-- What the judgement of a node gives as reasons. -/
theorem tells_judge (s : Setting) (n : Node) (children : List Verdict) :
    (judge s n children).Tells (nodeReasons n children) n.warning? := by
  unfold judge
  cases hrule : n.rule with
  | none => exact Verdict.tells_pass
  | some r =>
    cases r with
    | course => exact tells_judgeCourse hrule
    | year => exact tells_judgeYear hrule
    | atLeast => exact tells_judgeAtLeast hrule
    | all =>
      rw [nodeReasons_eq_failures (.inl (.inl hrule))]
      exact tells_judgeAll (by simp [Node.warning?, hrule])
    | grade =>
      rw [nodeReasons_eq_failures (.inl (.inr hrule))]
      exact tells_judgeAll (by simp [Node.warning?, hrule])
    | any =>
      rw [nodeReasons_eq_failures (.inr hrule)]
      exact tells_judgeAny (by simp [Node.warning?, hrule])
    | _ => exact Verdict.tells_unsure (by simp [Node.warning?, hrule])

end Tells

/-! ## Reasons of failure -/

/-- What a reason of a failed tree says. -/
inductive Explains (s : Setting) (n : Node) : String → Prop
  /-- A node of the tree asks for a course that is not taken. -/
  | missing {m : Node} {code : String} (hm : m ∈ n.nodes) (hrule : m.rule = some .course)
      (htext : m.text? = some code) (h : s.takenBefore code = false) :
      Explains s n (code ++ " is not in plan")
  /-- A year is not reached. -/
  | early (y : Int) : Explains s n ("Year requirement " ++ toString y ++ " not met")
  /-- Too few children hold. -/
  | few (needed held : Nat) :
      Explains s n
        ("N_OF(" ++ toString needed ++ "): only " ++ toString held ++ " conditions passed")

theorem Explains.mono {n c : Node} {reason : String} (h : Explains s c reason)
    (hc : c ∈ n.children) : Explains s n reason := by
  cases h with
  | missing hm hrule htext htaken => exact .missing (Node.nodes_subset hc hm) hrule htext htaken
  | early y => exact .early y
  | few needed held => exact .few needed held

/-- What a tree warns of that does not fail. -/
inductive Warns (n : Node) : String → Prop
  /-- There is no course code. -/
  | noCode : Warns n "COURSE condition without a course code"
  /-- There is no year. -/
  | noYear : Warns n "YEAR condition without a year"
  /-- There is no threshold. -/
  | noThreshold : Warns n "N_OF condition without a threshold"
  /-- The rule is not known. -/
  | unknown {name : String} (hrule : n.rule = some (.unknown name)) :
      Warns n ("Unknown subtype " ++ name)

theorem mem_failures {children : List Verdict} {reason : String} :
    reason ∈ failures children ↔ ∃ v ∈ children, v.holds = false ∧ reason ∈ v.reasons := by
  simp [failures, and_assoc]

/-! ## One node -/

/-- The reasons of a judgement: those of the failed children and own ones if it
failed, and otherwise warnings. -/
def Told (s : Setting) (n : Node) (children : List Verdict) (v : Verdict) : Prop :=
  ∀ reason ∈ v.reasons,
    (v.holds = false ∧ (reason ∈ failures children ∨ Explains s n reason)) ∨
      (v.holds = true ∧ Warns n reason)

section Told

variable {n : Node} {children : List Verdict} {reason : String}

/-- The message of a failed node explains the failure. -/
theorem explains_of_message {held : Nat} (hfailed : (judge s n children).holds = false)
    (h : n.message? held = some reason) : Explains s n reason := by
  unfold Node.message? at h
  split at h
  next hrule =>
    obtain ⟨code, htext, rfl⟩ := Option.map_eq_some_iff.1 h
    refine .missing n.self_mem_nodes hrule htext ?_
    cases htaken : s.takenBefore code with
    | true =>
      simp only [judge, hrule, judgeCourse, htext, htaken, if_true] at hfailed
      exact Bool.noConfusion hfailed
    | false => rfl
  next =>
    obtain ⟨y, -, rfl⟩ := Option.map_eq_some_iff.1 h
    exact .early y
  next =>
    obtain ⟨k, -, rfl⟩ := Option.map_eq_some_iff.1 h
    exact .few _ _
  next => cases h

theorem warns_of_warning (h : n.warning? = some reason) : Warns n reason := by
  unfold Node.warning? at h
  split at h
  next =>
    obtain rfl := Option.some.inj (Option.ite_none_right_eq_some.1 h).2
    exact .noCode
  next =>
    obtain rfl := Option.some.inj (Option.ite_none_right_eq_some.1 h).2
    exact .noYear
  next =>
    obtain rfl := Option.some.inj (Option.ite_none_right_eq_some.1 h).2
    exact .noThreshold
  next hrule =>
    obtain rfl := Option.some.inj h
    exact .unknown hrule
  next => cases h

theorem told_judge : Told s n children (judge s n children) := by
  intro reason hreason
  have htells := tells_judge s n children
  cases hstatus : (judge s n children).status with
  | unsatisfied =>
    have hfailed := holds_eq_false.2 hstatus
    rw [htells.failed hstatus, nodeReasons, List.mem_append] at hreason
    refine Or.inl ⟨hfailed, hreason.imp (fun hbelow => ?_) fun hown => ?_⟩
    · split at hbelow
      · exact hbelow
      · cases hbelow
    · exact explains_of_message hfailed (Option.mem_toList.1 hown)
  | satisfied =>
    rw [htells.met hstatus] at hreason
    cases hreason
  | unevaluated =>
    rw [htells.unsure hstatus] at hreason
    have hholds : (judge s n children).holds = true := by simp [Verdict.holds, hstatus]
    exact Or.inr ⟨hholds, warns_of_warning (Option.mem_toList.1 hreason)⟩

end Told

/-! ## Trees -/

mutual

/-- The reasons of a failed tree explain the failure. -/
theorem explains_of_failed {reason : String} :
    ∀ {n : Node}, (evaluate s n).holds = false → reason ∈ (evaluate s n).reasons →
      Explains s n reason
  | ⟨k, r, v, cs⟩, hfailed, hreason => by
    rw [evaluate] at hfailed hreason
    rcases told_judge reason hreason with ⟨-, hbelow | hown⟩ | ⟨hholds, -⟩
    · obtain ⟨w, hw, hwfailed, hwreason⟩ := mem_failures.1 hbelow
      obtain ⟨c, hc, hexplains⟩ := explains_of_mem_failed hw hwfailed hwreason
      exact hexplains.mono hc
    · exact hown
    · rw [hfailed] at hholds
      exact Bool.noConfusion hholds

theorem explains_of_mem_failed {reason : String} {w : Verdict} :
    ∀ {cs : List Node}, w ∈ evaluateAll s cs → w.holds = false → reason ∈ w.reasons →
      ∃ c ∈ cs, Explains s c reason
  | [], hw, _, _ => nomatch hw
  | c :: cs, hw, hfailed, hreason => by
    rw [evaluateAll] at hw
    cases List.mem_cons.1 hw with
    | inl heq =>
      subst heq
      exact ⟨c, List.mem_cons_self .., explains_of_failed hfailed hreason⟩
    | inr hrest =>
      obtain ⟨c', hc', hexplains⟩ := explains_of_mem_failed hrest hfailed hreason
      exact ⟨c', List.mem_cons_of_mem _ hc', hexplains⟩

end

/-- Every reason explains a failure or warns. -/
theorem explains_or_warns {n : Node} {reason : String} (h : reason ∈ (evaluate s n).reasons) :
    Explains s n reason ∨ Warns n reason := by
  cases hholds : (evaluate s n).holds with
  | false => exact Or.inl (explains_of_failed hholds h)
  | true =>
    rw [evaluate_eq] at h hholds
    rcases told_judge reason h with ⟨hfailed, -⟩ | ⟨-, hwarns⟩
    · rw [hfailed] at hholds
      exact Bool.noConfusion hholds
    · exact Or.inr hwarns

end Prereq

end StudyPlan
