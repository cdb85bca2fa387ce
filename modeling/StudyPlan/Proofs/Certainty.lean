import Mathlib.Data.List.Forall2
import StudyPlan.Prereq.Evaluate

/-!
# Three outcomes are exact

Some nodes cannot be checked (`unevaluable`).  If each of them is given a truth value
of its own, by its place in the tree, a tree is true or false: this is `truth`, and it
knows nothing of a third outcome.  The judgement of a tree is exact with respect to
it: satisfied is true for every choice, unsatisfied is false for every choice, and
unevaluated is what depends on the choice (`evaluate_exact`).

There is no negation in a tree, so that two choices decide.  If every unevaluable
node is given the same value, the truth of the tree is its judgement with unsure read
as this value (`truth_const`), and every other choice lies between the two
(`truth_mono`).
-/

namespace StudyPlan

namespace Prereq

/-! ## What a tree means -/

/-- A node whose truth cannot be found out. -/
def unevaluable (n : Node) : Bool :=
  match n.rule with
  | none => false
  | some .all => false
  | some .grade => false
  | some .any => false
  | some .atLeast => n.threshold?.isNone
  | some .course => n.text?.isNone
  | some .year => n.threshold?.isNone
  | some _ => true

/-- The truth of a node, given that of its children. -/
def means (s : Setting) (n : Node) (children : List Bool) : Bool :=
  match n.rule with
  | some .all => children.all id
  | some .grade => children.all id
  | some .any => children.any id
  | some .atLeast => n.threshold?.any fun k => decide (Max.max k 0 ≤ (children.count true : Int))
  | some .course =>
    n.text?.any fun code => (s.planned (Code.normalize code)).any fun t => decide (t < s.term)
  | some .year => n.threshold?.any fun y => decide (y ≤ (Term.year s.term : Int))
  | _ => true

/-- A truth value for every place in a tree.  A place is given by the positions of the
children on the way from the root. -/
abbrev Choice := List Nat → Bool

mutual

/-- The truth of a tree if the unevaluable nodes have the chosen values. -/
def truth (s : Setting) (a : Choice) : Node → Bool
  | ⟨k, r, v, cs⟩ =>
    if unevaluable ⟨k, r, v, cs⟩ then a [] else means s ⟨k, r, v, cs⟩ (truths s a 0 cs)

/-- The truth of trees that are children from a position on. -/
def truths (s : Setting) (a : Choice) (i : Nat) : List Node → List Bool
  | [] => []
  | n :: ns => truth s (fun place => a (i :: place)) n :: truths s a (i + 1) ns

end

/-! ## Reading a judgement -/

/-- A judgement as a truth value, with unsure read as a given one. -/
def Verdict.readAs (b : Bool) (v : Verdict) : Bool :=
  match v.status with
  | .satisfied => true
  | .unsatisfied => false
  | .unevaluated => b

namespace Verdict

variable {v : Verdict}

theorem readAs_true (v : Verdict) : v.readAs true = v.holds := by
  unfold readAs holds
  cases v.status <;> rfl

theorem readAs_false (v : Verdict) : v.readAs false = v.certain := by
  unfold readAs certain
  cases v.status <;> rfl

theorem readAs_of_failed (h : v.holds = false) (b : Bool) : v.readAs b = false := by
  unfold readAs holds at *
  cases hv : v.status with
  | satisfied => simp [hv] at h
  | unsatisfied => rfl
  | unevaluated => simp [hv] at h

theorem readAs_of_certain (h : v.certain = true) (b : Bool) : v.readAs b = true := by
  unfold readAs certain at *
  rw [eq_of_beq h]

theorem certain_of_holds (h : v.holds = true) (hsure : v.status ≠ .unevaluated) :
    v.certain = true := by
  unfold holds certain at *
  cases hv : v.status with
  | satisfied => rfl
  | unsatisfied => simp [hv] at h
  | unevaluated => exact absurd hv hsure

theorem holds_of_readAs {b : Bool} (h : v.readAs b = true) : v.holds = true := by
  cases hv : v.holds with
  | true => rfl
  | false =>
    rw [readAs_of_failed hv] at h
    exact h

theorem status_eq_satisfied : v.status = .satisfied ↔ v.readAs false = true := by
  rw [readAs_false, certain, beq_iff_eq]

theorem status_eq_unsatisfied : v.status = .unsatisfied ↔ v.readAs true = false := by
  rw [readAs_true, holds, bne_eq_false_iff_eq]

theorem status_eq_unevaluated :
    v.status = .unevaluated ↔ v.readAs true = true ∧ v.readAs false = false := by
  unfold readAs
  cases v.status <;> simp

end Verdict

/-! ## One node -/

variable {s : Setting}

theorem readAs_judgeAll (b : Bool) (children : List Verdict) :
    (judgeAll children).readAs b = (children.map (·.readAs b)).all id := by
  rw [List.all_map, judgeAll]
  by_cases hfailed : children.any (!·.holds) = true
  · obtain ⟨v, hv, hvf⟩ := List.any_eq_true.1 hfailed
    have hread := Verdict.readAs_of_failed (Bool.not_eq_true' _ ▸ hvf) b
    rw [if_pos hfailed]
    exact (List.all_eq_false.2 ⟨v, hv, by simp [hread]⟩).symm
  · have hholds : ∀ v ∈ children, v.holds = true := by simpa using hfailed
    rw [if_neg hfailed]
    by_cases hunsure : children.any (·.status == .unevaluated) = true
    · obtain ⟨v, hv, hvu⟩ := List.any_eq_true.1 hunsure
      rw [if_pos hunsure]
      cases b with
      | true =>
        exact (List.all_eq_true.2 fun w hw => (Verdict.readAs_true w).trans (hholds w hw)).symm
      | false =>
        have hread := (Verdict.status_eq_unevaluated.1 (eq_of_beq hvu)).2
        exact (List.all_eq_false.2 ⟨v, hv, by simp [hread]⟩).symm
    · have hsure : ∀ v ∈ children, v.status ≠ .unevaluated := by simpa using hunsure
      rw [if_neg hunsure]
      refine (List.all_eq_true.2 fun v hv => ?_).symm
      exact Verdict.readAs_of_certain (Verdict.certain_of_holds (hholds v hv) (hsure v hv)) b

theorem readAs_judgeAny (b : Bool) (children : List Verdict) :
    (judgeAny children).readAs b = (children.map (·.readAs b)).any id := by
  rw [List.any_map, judgeAny]
  by_cases hcertain : children.any (·.certain) = true
  · obtain ⟨v, hv, hvc⟩ := List.any_eq_true.1 hcertain
    rw [if_pos hcertain]
    exact (List.any_eq_true.2 ⟨v, hv, Verdict.readAs_of_certain hvc b⟩).symm
  · have huncertain : ∀ v ∈ children, v.certain = false := by simpa using hcertain
    rw [if_neg hcertain]
    by_cases hholds : children.any (·.holds) = true
    · obtain ⟨v, hv, hvh⟩ := List.any_eq_true.1 hholds
      rw [if_pos hholds]
      cases b with
      | true => exact (List.any_eq_true.2 ⟨v, hv, (Verdict.readAs_true v).trans hvh⟩).symm
      | false =>
        refine (List.any_eq_false.2 fun w hw => ?_).symm
        simp [Verdict.readAs_false, huncertain w hw]
    · have hfailed : ∀ v ∈ children, v.holds = false := by simpa using hholds
      rw [if_neg hholds]
      refine (List.any_eq_false.2 fun v hv => ?_).symm
      simp [Verdict.readAs_of_failed (hfailed v hv) b]

/-- The number of children that are true if unsure is read as a given value. -/
theorem count_readAs (b : Bool) (children : List Verdict) :
    (children.map (·.readAs b)).count true = children.countP (·.readAs b) := by
  rw [List.count, List.countP_map]
  exact List.countP_congr fun v _ => by simp

theorem readAs_judgeAtLeast (b : Bool) {n : Node} {k : Int} (hk : n.threshold? = some k)
    (children : List Verdict) :
    (judgeAtLeast n children).readAs b
      = decide (Max.max k 0 ≤ ((children.map (·.readAs b)).count true : Int)) := by
  rw [count_readAs]
  -- Whatever unsure is read as, the number is between the certain children and those that hold.
  have hle : children.countP (·.readAs b) ≤ children.countP (·.holds) :=
    List.countP_mono_left fun v _ => Verdict.holds_of_readAs
  have hge : children.countP (·.certain) ≤ children.countP (·.readAs b) :=
    List.countP_mono_left fun v _ h => Verdict.readAs_of_certain h b
  simp only [judgeAtLeast, hk]
  split
  next hfew => exact (decide_eq_false (by omega)).symm
  next hmany =>
    split
    next hcertain => exact (decide_eq_true (by omega)).symm
    next huncertain =>
      cases b with
      | true =>
        simp only [Verdict.readAs_true] at *
        exact (decide_eq_true (by omega)).symm
      | false =>
        simp only [Verdict.readAs_false] at *
        exact (decide_eq_false (by omega)).symm

theorem takenBefore_eq (s : Setting) (code : String) :
    s.takenBefore code
      = (s.planned (Code.normalize code)).any fun t => decide (t < s.term) := by
  unfold Setting.takenBefore
  cases s.planned (Code.normalize code) with
  | none => rfl
  | some t => rfl

/-- The judgement of a node read as a truth value. -/
theorem readAs_judge (b : Bool) (n : Node) (children : List Verdict) :
    (judge s n children).readAs b
      = if unevaluable n then b else means s n (children.map (·.readAs b)) := by
  unfold judge unevaluable means
  cases hrule : n.rule with
  | none => rfl
  | some r =>
    cases r with
    | all => exact readAs_judgeAll b children
    | grade => exact readAs_judgeAll b children
    | any => exact readAs_judgeAny b children
    | atLeast =>
      cases hk : n.threshold? with
      | none => simp only [judgeAtLeast, hk]; rfl
      | some k => simpa using readAs_judgeAtLeast b hk children
    | course =>
      cases htext : n.text? with
      | none => simp only [judgeCourse, htext]; rfl
      | some code =>
        simp only [judgeCourse, htext, Option.any_some, ← takenBefore_eq]
        cases s.takenBefore code with
        | true => rfl
        | false => rfl
    | year =>
      cases hy : n.threshold? with
      | none => simp only [judgeYear, hy]; rfl
      | some y =>
        simp only [judgeYear, hy]
        by_cases hyear : y ≤ (Term.year s.term : Int)
        · simp [hyear, Verdict.readAs, Verdict.pass]
        · simp [hyear, Verdict.readAs, Verdict.fail]
    | _ => rfl

/-! ## Trees -/

mutual

/-- If all unevaluable nodes have the same value, the truth of a tree is its judgement
with unsure read as this value. -/
theorem truth_const (s : Setting) (b : Bool) :
    ∀ n : Node, truth s (fun _ => b) n = (evaluate s n).readAs b
  | ⟨k, r, v, cs⟩ => by
    rw [truth, evaluate, readAs_judge, truths_const s b 0 cs]

theorem truths_const (s : Setting) (b : Bool) (i : Nat) :
    ∀ ns : List Node, truths s (fun _ => b) i ns = (evaluateAll s ns).map (·.readAs b)
  | [] => rfl
  | n :: ns => by
    rw [truths, evaluateAll, List.map_cons, truth_const s b n, truths_const s b (i + 1) ns]

end

/-- Where one list is true, so is the other. -/
abbrev Below (xs ys : List Bool) : Prop := List.Forall₂ (fun x y => x = true → y = true) xs ys

theorem Below.all {xs ys : List Bool} (h : Below xs ys) (hx : xs.all id = true) :
    ys.all id = true := by
  induction h with
  | nil => rfl
  | cons hxy _ ih =>
    rw [List.all_cons, Bool.and_eq_true] at hx ⊢
    exact ⟨hxy hx.1, ih hx.2⟩

theorem Below.any {xs ys : List Bool} (h : Below xs ys) (hx : xs.any id = true) :
    ys.any id = true := by
  induction h with
  | nil => exact hx
  | cons hxy _ ih =>
    rw [List.any_cons, Bool.or_eq_true] at hx ⊢
    exact hx.imp hxy ih

theorem Below.count_le {xs ys : List Bool} (h : Below xs ys) : xs.count true ≤ ys.count true := by
  induction h with
  | nil => exact Nat.le_refl _
  | @cons x y xs ys hxy _ ih =>
    cases x with
    | false =>
      rw [List.count_cons_of_ne (by decide)]
      exact Nat.le_trans ih (List.count_le_count_cons ..)
    | true =>
      rw [hxy rfl, List.count_cons_self, List.count_cons_self]
      exact Nat.succ_le_succ ih

/-- More true children do not make a node false. -/
theorem means_mono {n : Node} {xs ys : List Bool} (h : Below xs ys)
    (hx : means s n xs = true) : means s n ys = true := by
  unfold means at *
  split at hx
  · exact h.all hx
  · exact h.all hx
  · exact h.any hx
  · obtain ⟨k, hk, hle⟩ := (Option.any_eq_true _ _).1 hx
    have hcount := h.count_le
    refine (Option.any_eq_true _ _).2 ⟨k, hk, ?_⟩
    rw [decide_eq_true_eq] at hle ⊢
    omega
  · exact hx
  · exact hx
  · rfl

mutual

/-- A choice of more true values does not make a tree false. -/
theorem truth_mono : ∀ {a b : Choice} {n : Node}, (∀ place, a place = true → b place = true) →
    truth s a n = true → truth s b n = true
  | a, b, ⟨k, r, v, cs⟩, hab, ha => by
    rw [truth] at ha ⊢
    split at ha
    next hun =>
      rw [if_pos hun]
      exact hab [] ha
    next heval =>
      rw [if_neg heval]
      exact means_mono (truths_below hab) ha

theorem truths_below : ∀ {a b : Choice} {i : Nat} {ns : List Node},
    (∀ place, a place = true → b place = true) → Below (truths s a i ns) (truths s b i ns)
  | _, _, _, [], _ => by
    rw [truths, truths]
    exact .nil
  | a, b, i, n :: ns, hab => by
    rw [truths, truths]
    exact .cons (truth_mono fun place => hab (i :: place)) (truths_below hab)

end

theorem truth_of_certain {n : Node} (h : (evaluate s n).readAs false = true) (a : Choice) :
    truth s a n = true := by
  rw [← truth_const] at h
  exact truth_mono (fun _ hf => Bool.noConfusion hf) h

theorem not_truth_of_failed {n : Node} (h : (evaluate s n).readAs true = false) (a : Choice) :
    truth s a n = false := by
  rw [← truth_const] at h
  refine Bool.eq_false_iff.2 fun ha => ?_
  rw [truth_mono (fun _ _ => rfl) ha] at h
  exact Bool.noConfusion h

/-- A tree is judged satisfied if it is true for every choice, unsatisfied if it is
false for every choice, and unevaluated if there are choices for both. -/
theorem evaluate_exact (s : Setting) (n : Node) :
    ((evaluate s n).status = .satisfied ↔ ∀ a, truth s a n = true) ∧
    ((evaluate s n).status = .unsatisfied ↔ ∀ a, truth s a n = false) ∧
    ((evaluate s n).status = .unevaluated ↔
      (∃ a, truth s a n = true) ∧ ∃ a, truth s a n = false) := by
  rw [Verdict.status_eq_satisfied, Verdict.status_eq_unsatisfied, Verdict.status_eq_unevaluated]
  refine ⟨⟨truth_of_certain, fun h => ?_⟩, ⟨not_truth_of_failed, fun h => ?_⟩, ?_⟩
  · exact (truth_const s false n).symm.trans (h _)
  · exact (truth_const s true n).symm.trans (h _)
  · constructor
    · rintro ⟨hholds, huncertain⟩
      exact ⟨⟨_, (truth_const s true n).trans hholds⟩, ⟨_, (truth_const s false n).trans huncertain⟩⟩
    · rintro ⟨⟨a, ha⟩, ⟨b, hb⟩⟩
      constructor
      · refine Bool.not_eq_false _ ▸ fun hfailed => ?_
        rw [not_truth_of_failed hfailed a] at ha
        exact Bool.noConfusion ha
      · refine Bool.eq_false_iff.2 fun hcertain => ?_
        rw [truth_of_certain hcertain b] at hb
        exact Bool.noConfusion hb

end Prereq

end StudyPlan
