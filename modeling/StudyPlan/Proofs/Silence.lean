import StudyPlan.Proofs.Certainty
import StudyPlan.Proofs.Reasons

/-!
# Failing without a word

A failed tree should say why.  A node that fails has a message of its own or has failed
children to speak for it (`Failing`), with one exception: a choice without children fails,
and nobody is there to say so.

A tree that fails through such choices alone is *mute*.  The mute trees are exactly the
failed trees without reasons (`failed_without_reasons_iff`).  So a failed tree says why if
each of its choices has something to choose from (`reasons_ne_nil`).
-/

namespace StudyPlan

namespace Prereq

/-! ## How a node fails -/

/-- What makes a node fail. -/
inductive Failing (n : Node) (children : List Verdict) : Prop
  /-- It is a choice, and no child holds. -/
  | any (hrule : n.rule = some .any) (h : ∀ v ∈ children, v.holds = false)
  /-- It asks for all children, and one of them fails. -/
  | all (hrule : n.rule = some .all ∨ n.rule = some .grade) {v : Verdict} (hv : v ∈ children)
    (h : v.holds = false)
  /-- It fails by itself, and says so. -/
  | own (h : (n.message? (children.countP (·.holds))).isSome = true)

variable {s : Setting} {n : Node} {children : List Verdict}

theorem judgeAll_failed_iff :
    (judgeAll children).holds = false ↔ ∃ v ∈ children, v.holds = false := by
  rw [← Verdict.readAs_true, readAs_judgeAll, List.all_map, List.all_eq_false]
  simp [Verdict.readAs_true]

theorem judgeAny_failed_iff :
    (judgeAny children).holds = false ↔ ∀ v ∈ children, v.holds = false := by
  rw [← Verdict.readAs_true, readAs_judgeAny, List.any_map, List.any_eq_false]
  simp [Verdict.readAs_true]

theorem failing_of_judge (h : (judge s n children).holds = false) : Failing n children := by
  unfold judge at h
  split at h
  next => exact Bool.noConfusion h
  next hrule =>
    unfold judgeCourse at h
    split at h
    next => exact Bool.noConfusion h
    next code htext => exact .own (by simp [Node.message?, hrule, htext])
  next hrule =>
    obtain ⟨v, hv, hfailed⟩ := judgeAll_failed_iff.1 h
    exact .all (.inl hrule) hv hfailed
  next hrule =>
    obtain ⟨v, hv, hfailed⟩ := judgeAll_failed_iff.1 h
    exact .all (.inr hrule) hv hfailed
  next hrule => exact .any hrule (judgeAny_failed_iff.1 h)
  next hrule =>
    unfold judgeAtLeast at h
    split at h
    next => exact Bool.noConfusion h
    next k hneeded => exact .own (by simp [Node.message?, hrule, hneeded])
  next hrule =>
    unfold judgeYear at h
    split at h
    next => exact Bool.noConfusion h
    next y hyear => exact .own (by simp [Node.message?, hrule, hyear])
  next => exact Bool.noConfusion h
  next => exact Bool.noConfusion h

theorem failures_eq_nil_iff :
    failures children = [] ↔ ∀ v ∈ children, v.holds = false → v.reasons = [] := by
  simp [failures, List.flatMap_eq_nil_iff]

/-! ## Mute trees -/

/-- A tree fails, and nothing in it says why. -/
inductive Mute (s : Setting) : Node → Prop
  /-- Nothing holds of what there is to choose from, if anything, and nothing says why. -/
  | any {n : Node} (hrule : n.rule = some .any) (hchildren : ∀ c ∈ n.children, Mute s c) :
    Mute s n
  /-- A child is missed, and no child that is missed says why. -/
  | all {n c : Node} (hrule : n.rule = some .all ∨ n.rule = some .grade) (hc : c ∈ n.children)
    (hmute : Mute s c)
    (hchildren : ∀ d ∈ n.children, (evaluate s d).status = .unsatisfied → Mute s d) : Mute s n

/-- A tree fails and gives no reasons. -/
def Silent (s : Setting) (n : Node) : Prop :=
  (evaluate s n).status = .unsatisfied ∧ (evaluate s n).reasons = []

theorem silent_iff : Silent s n ↔ (evaluate s n).holds = false ∧
    nodeReasons n (n.children.map (evaluate s)) = [] := by
  rw [Silent, holds_eq_false]
  refine and_congr_right fun hfailed => ?_
  rw [evaluate_eq] at hfailed ⊢
  rw [(tells_judge s n _).failed hfailed]

theorem Mute.silent (h : Mute s n) : Silent s n := by
  induction h with
  | @any n hrule hchildren ih =>
    rw [silent_iff, nodeReasons_eq_failures (.inr hrule), failures_eq_nil_iff, evaluate_eq, judge,
      hrule, judgeAny_failed_iff]
    simp only [List.forall_mem_map]
    exact ⟨fun c hc => holds_eq_false.2 (ih c hc).1, fun c hc _ => (ih c hc).2⟩
  | @all n c hrule hc hmute hchildren ihmute ih =>
    have hjudge : evaluate s n = judgeAll (n.children.map (evaluate s)) := by
      rcases hrule with hrule | hrule <;> rw [evaluate_eq, judge, hrule]
    rw [silent_iff, nodeReasons_eq_failures (.inl hrule), failures_eq_nil_iff, hjudge,
      judgeAll_failed_iff]
    simp only [List.forall_mem_map]
    exact ⟨⟨_, List.mem_map_of_mem hc, holds_eq_false.2 ihmute.1⟩,
      fun d hd hfailed => (ih d hd (holds_eq_false.1 hfailed)).2⟩

theorem Silent.mute : ∀ {n : Node}, Silent s n → Mute s n := by
  intro n
  induction n using Node.induct with
  | step n ih =>
    intro h
    obtain ⟨hfailed, hreasons⟩ := silent_iff.1 h
    rw [evaluate_eq] at hfailed
    cases failing_of_judge hfailed with
    | any hrule hnone =>
      rw [nodeReasons_eq_failures (.inr hrule), failures_eq_nil_iff] at hreasons
      simp only [List.forall_mem_map] at hreasons hnone
      exact .any hrule fun c hc =>
        ih c hc ⟨holds_eq_false.1 (hnone c hc), hreasons c hc (hnone c hc)⟩
    | all hrule hv hvfailed =>
      rw [nodeReasons_eq_failures (.inl hrule), failures_eq_nil_iff] at hreasons
      simp only [List.forall_mem_map] at hreasons
      obtain ⟨c, hc, rfl⟩ := List.mem_map.1 hv
      have hmute : ∀ d ∈ n.children, (evaluate s d).status = .unsatisfied → Mute s d :=
        fun d hd hdfailed => ih d hd ⟨hdfailed, hreasons d hd (holds_eq_false.2 hdfailed)⟩
      exact .all hrule hc (hmute c hc (holds_eq_false.1 hvfailed)) hmute
    | own hmessage =>
      obtain ⟨message, hmessage⟩ := Option.isSome_iff_exists.1 hmessage
      rw [nodeReasons, hmessage] at hreasons
      exact absurd hreasons (by simp)

/-- A tree fails without reasons exactly if it is mute. -/
theorem failed_without_reasons_iff (s : Setting) (n : Node) :
    ((evaluate s n).status = .unsatisfied ∧ (evaluate s n).reasons = []) ↔ Mute s n :=
  ⟨Silent.mute, Mute.silent⟩

/-- A choice of nothing. -/
def emptyChoice : Node := ⟨some .root, some .any, none, []⟩

/-- Not every failed tree says why. -/
theorem failed_without_reasons_emptyChoice :
    ¬ ∀ (s : Setting) (n : Node), (evaluate s n).status = .unsatisfied →
      (evaluate s n).reasons ≠ [] :=
  fun hclaim => hclaim ⟨1, fun _ => none⟩ emptyChoice rfl rfl

/-- In a mute tree there is a choice without children. -/
theorem Mute.exists_emptyChoice (h : Mute s n) :
    ∃ m ∈ n.nodes, m.rule = some .any ∧ m.children = [] := by
  induction h with
  | @any n hrule hchildren ih =>
    cases hcs : n.children with
    | nil => exact ⟨n, n.self_mem_nodes, hrule, hcs⟩
    | cons c cs =>
      have hc : c ∈ n.children := hcs ▸ List.mem_cons_self ..
      obtain ⟨m, hm, hempty⟩ := ih c hc
      exact ⟨m, Node.nodes_subset hc hm, hempty⟩
  | @all n c hrule hc hmute hchildren ihmute ih =>
    obtain ⟨m, hm, hempty⟩ := ihmute
    exact ⟨m, Node.nodes_subset hc hm, hempty⟩

/-- If each choice in a tree has something to choose from, a failed tree says why. -/
theorem reasons_ne_nil (hchoices : ∀ m ∈ n.nodes, m.rule = some .any → m.children ≠ [])
    (hfailed : (evaluate s n).status = .unsatisfied) : (evaluate s n).reasons ≠ [] := by
  intro hreasons
  obtain ⟨m, hm, hrule, hempty⟩ := (Silent.mute ⟨hfailed, hreasons⟩).exists_emptyChoice
  exact hchoices m hm hrule hempty

end Prereq

end StudyPlan
