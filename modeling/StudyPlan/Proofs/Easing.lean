import StudyPlan.Proofs.Certainty

/-!
# Easier settings

The outcomes are in order: not met, not certain, met.  A tree is judged no lower when
its course comes later, and when what was planned is planned still and no later
(`evaluate_status_mono`).

*Readings.*  Unsure read as true tells the failed trees from the others, and unsure
read as false tells the certain ones.  So a status is at most another if it is under
both readings (`Verdict.status_le_iff`).  Read in this way a judgement is the truth of
a node, and a true node stays true when more children are true (`means_mono`) and when
the setting is an easier one (`means_of_eases`).

*Settings.*  Only what is planned before the judged course's term counts, so that is
all that an easier setting has to keep (`Setting.Eases`).
-/

namespace StudyPlan

namespace Prereq

/-! ## The order of the outcomes -/

/-- The rank of an outcome. -/
def Status.rank : Status → Nat
  | .unsatisfied => 0
  | .unevaluated => 1
  | .satisfied => 2

instance : LE Status := ⟨fun a b => a.rank ≤ b.rank⟩

theorem Status.le_def {a b : Status} : a ≤ b ↔ a.rank ≤ b.rank := Iff.rfl

theorem Verdict.status_le_iff {v w : Verdict} :
    v.status ≤ w.status ↔ ∀ b, v.readAs b = true → w.readAs b = true := by
  unfold Verdict.readAs
  rw [Status.le_def, Bool.forall_bool]
  cases v.status <;> cases w.status <;> simp [Status.rank]

/-! ## Settings -/

/-- The second setting is no harder: its term is no earlier, and what is planned before
the first one's term is planned before its own. -/
structure Setting.Eases (s s' : Setting) : Prop where
  /-- The judged course comes no earlier. -/
  later : s.term ≤ s'.term
  /-- What was taken before is taken before. -/
  taken : ∀ code t, s.planned code = some t → t < s.term →
    ∃ t', s'.planned code = some t' ∧ t' < s'.term

variable {s s' : Setting} {b : Bool}

/-- A setting in which nothing is planned later than it was is no harder for a later
course. -/
theorem Setting.eases_of_earlier (hterm : s.term ≤ s'.term)
    (hplanned : ∀ code t, s.planned code = some t → ∃ t' ≤ t, s'.planned code = some t') :
    s.Eases s' where
  later := hterm
  taken code t ht hlt := by
    obtain ⟨t', hle, ht'⟩ := hplanned code t ht
    exact ⟨t', ht', by omega⟩

theorem year_mono {t t' : Nat} (h : t ≤ t') : Term.year t ≤ Term.year t' :=
  Nat.succ_le_succ (Nat.div_le_div_right (Nat.sub_le_sub_right h 1))

/-- A true node stays true in an easier setting. -/
theorem means_of_eases (h : s.Eases s') {n : Node} {xs : List Bool}
    (hx : means s n xs = true) : means s' n xs = true := by
  unfold means at *
  split at hx
  · exact hx
  · exact hx
  · exact hx
  · exact hx
  · obtain ⟨code, hcode, htaken⟩ := (Option.any_eq_true _ _).1 hx
    obtain ⟨t, ht, hlt⟩ := (Option.any_eq_true _ _).1 htaken
    obtain ⟨t', ht', hlt'⟩ := h.taken _ t ht (of_decide_eq_true hlt)
    refine (Option.any_eq_true _ _).2 ⟨code, hcode, (Option.any_eq_true _ _).2 ⟨t', ht', ?_⟩⟩
    exact decide_eq_true hlt'
  · obtain ⟨y, hy, hyear⟩ := (Option.any_eq_true _ _).1 hx
    have hmono := year_mono h.later
    refine (Option.any_eq_true _ _).2 ⟨y, hy, ?_⟩
    rw [decide_eq_true_eq] at hyear ⊢
    omega
  · rfl

/-! ## Trees -/

mutual

/-- However unsure is read, a tree that reads true does so in an easier setting. -/
theorem readAs_evaluate_of_eases (h : s.Eases s') :
    ∀ {n : Node}, (evaluate s n).readAs b = true → (evaluate s' n).readAs b = true
  | ⟨k, r, v, cs⟩, hs => by
    rw [evaluate, readAs_judge] at hs ⊢
    -- Whether a node can be evaluated does not depend on the setting.
    split at hs
    next hun =>
      rw [if_pos hun]
      exact hs
    next heval =>
      rw [if_neg heval]
      exact means_of_eases h (means_mono (readAs_evaluateAll_of_eases h) hs)

theorem readAs_evaluateAll_of_eases (h : s.Eases s') : ∀ {ns : List Node},
    Below ((evaluateAll s ns).map (·.readAs b)) ((evaluateAll s' ns).map (·.readAs b))
  | [] => .nil
  | _ :: _ => .cons (readAs_evaluate_of_eases h) (readAs_evaluateAll_of_eases h)

end

theorem Setting.Eases.status_le (h : s.Eases s') (n : Node) :
    (evaluate s n).status ≤ (evaluate s' n).status :=
  Verdict.status_le_iff.2 fun _ => readAs_evaluate_of_eases h

/-- A tree is judged no lower for a later course, when everything that was planned is
planned and no later. -/
theorem evaluate_status_mono (hterm : s.term ≤ s'.term)
    (hplanned : ∀ code t, s.planned code = some t → ∃ t' ≤ t, s'.planned code = some t')
    (n : Node) : (evaluate s n).status ≤ (evaluate s' n).status :=
  (Setting.eases_of_earlier hterm hplanned).status_le n

/-- A course, and with it a permission or the second year. -/
def seminar : Node :=
  ⟨some .root, some .all, none,
    [⟨some .leaf, some .course, some (.text "math100"), []⟩,
      ⟨some .inner, some .atLeast, some (.text "1"),
        [⟨some .leaf, some .permission, none, []⟩,
          ⟨some .leaf, some .year, some (.text "2"), []⟩]⟩]⟩

/-- Only one course is planned. -/
def onlyCalculus (term : Nat) (code : String) : Option Nat :=
  if code = "MATH 100" then some term else none

/-- In the second year the permission is not needed any more. -/
theorem evaluate_status_mono_seminar :
    (⟨4, onlyCalculus 3⟩ : Setting).term ≤ (⟨5, onlyCalculus 1⟩ : Setting).term ∧
    (∀ code t, onlyCalculus 3 code = some t → ∃ t' ≤ t, onlyCalculus 1 code = some t') ∧
    (evaluate ⟨4, onlyCalculus 3⟩ seminar).status = .unevaluated ∧
    (evaluate ⟨5, onlyCalculus 1⟩ seminar).status = .satisfied ∧
    (evaluate ⟨4, onlyCalculus 3⟩ seminar).status
      ≤ (evaluate ⟨5, onlyCalculus 1⟩ seminar).status := by
  have hterm : (⟨4, onlyCalculus 3⟩ : Setting).term ≤ (⟨5, onlyCalculus 1⟩ : Setting).term := by
    decide
  have hplanned : ∀ code t, onlyCalculus 3 code = some t →
      ∃ t' ≤ t, onlyCalculus 1 code = some t' := by
    intro code t h
    obtain ⟨rfl, rfl⟩ : code = "MATH 100" ∧ 3 = t := by simpa [onlyCalculus] using h
    exact ⟨1, by decide, by decide⟩
  exact ⟨hterm, hplanned, by decide +kernel, by decide +kernel,
    evaluate_status_mono hterm hplanned seminar⟩

end Prereq

end StudyPlan
