import StudyPlan.Proofs.Reasons

/-!
# Whose words a judgement gives

A failed tree gives the messages of its nodes in post-order: children from left to right,
then their parent.  `Node.postorder` lists every place of a tree once, each with the nodes
above it.  A place is *blamed* if its node fails and every node above it is a connective
that fails; a blamed node that asks for a course, for a year or for a number of children
has a message.  These messages are the reasons of the tree (`evaluate_tells`).

On the way up, the reasons of a node are those of its failed children and its own message
(`tells_judge`), and a connective that holds drops what its children say.  On the way down,
a node that holds or is no connective takes the blame from everything below it
(`blamedReasons_of_excused`).  The two descriptions meet in an induction over the tree with
the nodes above it kept general (`blamedReasons_postorder`).

A tree that is met gives no reasons, and one that is not certain only a warning about its
own root.
-/

namespace StudyPlan

namespace Prereq

/-! ## Places -/

/-- A node at its place in a tree. -/
structure Occurrence where
  /-- The nodes above it, the nearest first. -/
  above : List Node
  /-- The node. -/
  node : Node

namespace Node

mutual

/-- The places of a tree in post-order.  The tree stands below the given nodes. -/
def postorder (above : List Node) : Node → List Occurrence
  | ⟨k, r, v, cs⟩ => postorders (⟨k, r, v, cs⟩ :: above) cs ++ [⟨above, ⟨k, r, v, cs⟩⟩]

/-- The places of trees, from left to right. -/
def postorders (above : List Node) : List Node → List Occurrence
  | [] => []
  | n :: ns => postorder above n ++ postorders above ns

end

mutual

theorem mem_above_of_mem_postorder {o : Occurrence} {a : Node} :
    ∀ {above : List Node} {n : Node}, o ∈ postorder above n → a ∈ above → a ∈ o.above
  | above, ⟨k, r, v, cs⟩, ho, ha => by
    rw [postorder, List.mem_append] at ho
    cases ho with
    | inl hbelow => exact mem_above_of_mem_postorders hbelow (List.mem_cons_of_mem _ ha)
    | inr hself =>
      obtain rfl := List.mem_singleton.1 hself
      exact ha

theorem mem_above_of_mem_postorders {o : Occurrence} {a : Node} :
    ∀ {above ns : List Node}, o ∈ postorders above ns → a ∈ above → a ∈ o.above
  | above, n :: ns, ho, ha => by
    rw [postorders, List.mem_append] at ho
    cases ho with
    | inl hn => exact mem_above_of_mem_postorder hn ha
    | inr hrest => exact mem_above_of_mem_postorders hrest ha

end

end Node

/-! ## Blame -/

/-- A connective that fails passes the blame on to its children. -/
def PassesOn (s : Setting) (n : Node) : Prop :=
  (evaluate s n).status = .unsatisfied ∧ n.isConnective = true

instance (s : Setting) (n : Node) : Decidable (PassesOn s n) :=
  inferInstanceAs (Decidable (_ ∧ _))

namespace Occurrence

/-- The node fails, and all nodes above it are connectives that fail. -/
def Blamed (s : Setting) (o : Occurrence) : Prop :=
  (evaluate s o.node).status = .unsatisfied ∧ ∀ a ∈ o.above, PassesOn s a

instance (s : Setting) (o : Occurrence) : Decidable (o.Blamed s) :=
  inferInstanceAs (Decidable (_ ∧ ∀ a ∈ o.above, PassesOn s a))

/-- What the node says for itself when it fails. -/
def message? (s : Setting) (o : Occurrence) : Option String :=
  o.node.message? (o.node.children.countP fun c => (evaluate s c).holds)

end Occurrence

/-- The messages of the blamed places, in their order. -/
def blamedReasons (s : Setting) (places : List Occurrence) : List String :=
  (places.filter fun o => decide (o.Blamed s)).filterMap (·.message? s)

section Blame

variable {s : Setting} {above : List Node}

theorem blamedReasons_append (places more : List Occurrence) :
    blamedReasons s (places ++ more) = blamedReasons s places ++ blamedReasons s more := by
  simp [blamedReasons]

/-- Below a node that does not pass the blame on, nothing is blamed. -/
theorem blamedReasons_of_excused {a : Node} (ha : a ∈ above) (h : ¬ PassesOn s a)
    (ns : List Node) : blamedReasons s (Node.postorders above ns) = [] := by
  have hnone : (Node.postorders above ns).filter (fun o => decide (o.Blamed s)) = [] := by
    refine List.filter_eq_nil_iff.2 fun o ho hblamed => h ?_
    exact (of_decide_eq_true hblamed).2 a (Node.mem_above_of_mem_postorders ho ha)
  rw [blamedReasons, hnone, List.filterMap_nil]

theorem failures_cons (v : Verdict) (vs : List Verdict) :
    failures (v :: vs) = (if v.holds then [] else v.reasons) ++ failures vs := by
  unfold failures
  cases hholds : v.holds <;> simp [hholds]

theorem countP_holds (ns : List Node) :
    (evaluateAll s ns).countP (·.holds) = ns.countP fun c => (evaluate s c).holds := by
  rw [evaluateAll_eq_map, List.countP_map]
  rfl

theorem blamedReasons_singleton (o : Occurrence) :
    blamedReasons s [o] = if o.Blamed s then (o.message? s).toList else [] := by
  unfold blamedReasons
  by_cases hblamed : o.Blamed s
  · cases hmessage : o.message? s <;> simp [hblamed, hmessage]
  · simp [hblamed]

mutual

/-- Below nodes that all pass the blame on, the messages of the blamed places are the
reasons of the tree if it failed. -/
theorem blamedReasons_postorder : ∀ {above : List Node}, (∀ a ∈ above, PassesOn s a) →
    ∀ n : Node, blamedReasons s (Node.postorder above n)
      = if (evaluate s n).holds then [] else (evaluate s n).reasons
  | above, habove, ⟨k, r, v, cs⟩ => by
    rw [Node.postorder, blamedReasons_append]
    have htells := tells_judge s ⟨k, r, v, cs⟩ (evaluateAll s cs)
    rw [← evaluate] at htells
    by_cases hfailed : (evaluate s ⟨k, r, v, cs⟩).status = .unsatisfied
    -- A failed connective stands above its children like the nodes above itself.
    · have hblamed : Occurrence.Blamed s ⟨above, ⟨k, r, v, cs⟩⟩ := ⟨hfailed, habove⟩
      rw [if_neg (by simp [holds_eq_false.2 hfailed]), htells.failed hfailed,
        blamedReasons_singleton, if_pos hblamed, nodeReasons, countP_holds, Occurrence.message?]
      congr 1
      by_cases hconn : Node.isConnective ⟨k, r, v, cs⟩ = true
      · rw [if_pos hconn]
        refine blamedReasons_postorders ?_ cs
        exact List.forall_mem_cons.2 ⟨⟨hfailed, hconn⟩, habove⟩
      · rw [if_neg hconn]
        exact blamedReasons_of_excused (List.mem_cons_self ..) (fun h => hconn h.2) cs
    -- A node that holds has nothing to say, and nothing below it is blamed.
    · have hblamed : ¬ Occurrence.Blamed s ⟨above, ⟨k, r, v, cs⟩⟩ := fun h => hfailed h.1
      have hholds : (evaluate s ⟨k, r, v, cs⟩).holds = true :=
        (Bool.not_eq_false _).mp (mt holds_eq_false.1 hfailed)
      rw [if_pos hholds, blamedReasons_singleton, if_neg hblamed, List.append_nil]
      exact blamedReasons_of_excused (List.mem_cons_self ..) (fun h => hfailed h.1) cs

theorem blamedReasons_postorders : ∀ {above : List Node}, (∀ a ∈ above, PassesOn s a) →
    ∀ ns : List Node, blamedReasons s (Node.postorders above ns) = failures (evaluateAll s ns)
  | _, _, [] => rfl
  | above, habove, n :: ns => by
    rw [Node.postorders, blamedReasons_append, evaluateAll, failures_cons,
      blamedReasons_postorder habove n, blamedReasons_postorders habove ns]

end

/-- A failed tree gives the messages of its blamed places in post-order, a tree that is
met gives nothing, and a tree that is not certain only a warning about its root. -/
theorem evaluate_tells (s : Setting) (n : Node) :
    (evaluate s n).Tells (blamedReasons s (n.postorder [])) n.warning? where
  failed hfailed := by
    have hnone : ∀ a ∈ ([] : List Node), PassesOn s a := fun _ h => nomatch h
    rw [blamedReasons_postorder hnone, if_neg (by simp [holds_eq_false.2 hfailed])]
  met hmet := by
    rw [evaluate_eq] at hmet ⊢
    exact (tells_judge s n _).met hmet
  unsure hunsure := by
    rw [evaluate_eq] at hunsure ⊢
    exact (tells_judge s n _).unsure hunsure

end Blame

/-- A course, another one unless it is permitted, and two of a third one and some credits. -/
def laboratory : Node :=
  ⟨some .root, some .all, none,
    [⟨some .leaf, some .course, some (.text "MATH 100"), []⟩,
      ⟨some .inner, some .any, none,
        [⟨some .leaf, some .course, some (.text "PHYS 111"), []⟩,
          ⟨some .leaf, some .permission, none, []⟩]⟩,
      ⟨some .inner, some .atLeast, some (.text "2"),
        [⟨some .leaf, some .course, some (.text "CHEM 121"), []⟩,
          ⟨some .leaf, some .credits, none, []⟩]⟩]⟩

example : (evaluate ⟨1, fun _ => none⟩ laboratory).reasons =
    ["MATH 100 is not in plan", "CHEM 121 is not in plan",
      "N_OF(2): only 1 conditions passed"] := by decide +kernel

end Prereq

end StudyPlan
