import Mathlib.Data.List.Perm.Subperm
import Mathlib.Logic.Relation
import StudyPlan.Proofs.Joining

/-!
# The order of precedence

`Precedence.order` is taken from a depth-first walk.  A position is *open* while
the walk is below it: met and not finished.  A *visit* meets a position, visits
everything that depends on it and finishes the position last, so a position is
finished after all of its dependents.  As the finished positions are kept last
first, each stands before its dependents in that list (`Ordered`).

Two things could go wrong.  A dependent that is open is passed over although it
is not finished; but then it leads to the position that is being visited, and
the edge closes a circle.  And a visit could run out of depth; but every level of
a walk meets one more position, so there is always depth left for the positions
that are not met (`Walk.Deep`).

* `visit_spec`: in a precedence without circles, a visit keeps the walk sound,
  leaves the same positions open and finishes its position.
* `order_eq_finished`, `order_eq_range`: the order is what the walk finished if
  there is no circle, and the plan's own order if there is one.
* `Forward.order_split`: when the order comes to a dependent, it has been at the
  prerequisite, if there is no circle or the prerequisite stands first in the plan.
-/

namespace StudyPlan

namespace Precedence

open Relation (TransGen)

variable {g : Precedence}

/-! ## Edges and circles -/

/-- A position comes right before another. -/
def Edge (g : Precedence) (i j : Nat) : Prop := (i, j) ∈ g.edges

/-- No position comes before itself, by however many edges. -/
def Acyclic (g : Precedence) : Prop := ∀ i, ¬ TransGen g.Edge i i

/-- Edges join positions of the list. -/
def Bounded (g : Precedence) : Prop := ∀ ⦃i j : Nat⦄, g.Edge i j → i < g.size ∧ j < g.size

/-- There is an edge exactly from the planned courses whose code is asked for. -/
theorem edge_ofCourses {catalog : Catalog} {courses : List PlannedCourse} {i j : Nat} :
    (ofCourses catalog courses).Edge i j ↔
      ∃ p q, courses[i]? = some p ∧ courses[j]? = some q ∧ i ≠ j ∧ isFree q = false ∧
        p.code ∈ codesFor catalog q :=
  mem_edges_join

theorem ofCourses_bounded (catalog : Catalog) (courses : List PlannedCourse) :
    (ofCourses catalog courses).Bounded := by
  intro i j h
  obtain ⟨p, q, hp, hq, -⟩ := edge_ofCourses.1 h
  exact ⟨(List.getElem?_eq_some_iff.1 hp).1, (List.getElem?_eq_some_iff.1 hq).1⟩

/-! ## Lists in order -/

/-- Every position of a list stands before everything that depends on it. -/
def Ordered (g : Precedence) : List Nat → Prop
  | [] => True
  | i :: rest => (∀ j, g.Edge i j → j ∈ rest) ∧ Ordered g rest

theorem Ordered.mem {l : List Nat} (h : g.Ordered l) {i j : Nat} (hi : i ∈ l)
    (he : g.Edge i j) : j ∈ l := by
  induction l with
  | nil => cases hi
  | cons k rest ih =>
    cases List.mem_cons.1 hi with
    | inl hik => exact List.mem_cons_of_mem _ (h.1 j (hik ▸ he))
    | inr hi' => exact List.mem_cons_of_mem _ (ih h.2 hi')

theorem Ordered.idxOf_lt {l : List Nat} (h : g.Ordered l) (hl : l.Nodup) {i j : Nat}
    (hi : i ∈ l) (he : g.Edge i j) : l.idxOf i < l.idxOf j := by
  induction l with
  | nil => cases hi
  | cons k rest ih =>
    obtain ⟨hk, hrest⟩ := h
    obtain ⟨hkr, hrestl⟩ := List.nodup_cons.1 hl
    by_cases hik : k = i
    · have hj : k ≠ j := fun h => hkr (h ▸ hk j (hik ▸ he))
      rw [List.idxOf_cons_eq _ hik, List.idxOf_cons_ne _ hj]
      exact Nat.succ_pos _
    · have hi' : i ∈ rest := (List.mem_cons.1 hi).resolve_left (Ne.symm hik)
      have hj : k ≠ j := fun h => hkr (h ▸ hrest.mem hi' he)
      rw [List.idxOf_cons_ne _ hik, List.idxOf_cons_ne _ hj]
      exact Nat.succ_lt_succ (ih hrest hrestl hi')

/-! ## The walk -/

namespace Walk

/-- The walk is below a position: it is met and not finished. -/
def Open (w : Walk) (x : Nat) : Prop := x ∈ w.met ∧ x ∉ w.finished

/-- What holds of a walk at any time. -/
structure Sound (g : Precedence) (w : Walk) : Prop where
  met_nodup : w.met.Nodup
  met_lt : ∀ x ∈ w.met, x < g.size
  met_of_finished : ∀ x ∈ w.finished, x ∈ w.met
  finished_nodup : w.finished.Nodup
  ordered : g.Ordered w.finished

/-- What a part of the walk leaves: more positions met and finished, and the same
ones open. -/
structure Grows (w w' : Walk) : Prop where
  met : w.met.length ≤ w'.met.length
  finished : ∀ x ∈ w.finished, x ∈ w'.finished
  opened : ∀ x, w'.Open x ↔ w.Open x

theorem Grows.refl (w : Walk) : w.Grows w := ⟨Nat.le_refl _, fun _ h => h, fun _ => Iff.rfl⟩

theorem Grows.trans {w₁ w₂ w₃ : Walk} (h : w₁.Grows w₂) (h' : w₂.Grows w₃) : w₁.Grows w₃ :=
  ⟨Nat.le_trans h.met h'.met, fun x hx => h'.finished x (h.finished x hx),
    fun x => (h'.opened x).trans (h.opened x)⟩

/-- There is depth left for every position that is not met. -/
def Deep (g : Precedence) (depth : Nat) (w : Walk) : Prop := g.size ≤ depth + w.met.length

/-- A walk that has met as many positions as there are has met them all. -/
theorem Sound.mem_met {w : Walk} (h : w.Sound g) (hd : w.Deep g 0) {i : Nat} (hi : i < g.size) :
    i ∈ w.met := by
  have hsub : w.met ⊆ List.range g.size := fun x hx => List.mem_range.2 (h.met_lt x hx)
  have hlen : (List.range g.size).length ≤ w.met.length := by
    simpa [Deep] using hd
  exact ((List.subperm_of_subset h.met_nodup hsub).perm_of_length_le hlen).mem_iff.2
    (List.mem_range.2 hi)

/-- The walk with one more position met. -/
def enter (w : Walk) (i : Nat) : Walk := { w with met := i :: w.met }

/-- The walk with one more position finished. -/
def leave (w : Walk) (i : Nat) : Walk := { w with finished := i :: w.finished }

theorem Sound.enter {w : Walk} (h : w.Sound g) {i : Nat} (hi : i < g.size) (hm : i ∉ w.met) :
    (w.enter i).Sound g where
  met_nodup := List.nodup_cons.2 ⟨hm, h.met_nodup⟩
  met_lt := by
    intro x hx
    cases List.mem_cons.1 hx with
    | inl hxi => exact hxi ▸ hi
    | inr hx' => exact h.met_lt x hx'
  met_of_finished x hx := List.mem_cons_of_mem _ (h.met_of_finished x hx)
  finished_nodup := h.finished_nodup
  ordered := h.ordered

theorem open_enter {w : Walk} {i x : Nat} (hs : w.Sound g) (hm : i ∉ w.met) :
    (w.enter i).Open x ↔ x = i ∨ w.Open x := by
  unfold Open enter
  constructor
  · rintro ⟨hx, hf⟩
    cases List.mem_cons.1 hx with
    | inl hxi => exact Or.inl hxi
    | inr hx' => exact Or.inr ⟨hx', hf⟩
  · rintro (rfl | ⟨hx, hf⟩)
    · exact ⟨List.mem_cons_self .., fun hf => hm (hs.met_of_finished _ hf)⟩
    · exact ⟨List.mem_cons_of_mem _ hx, hf⟩

theorem Sound.leave {w : Walk} (h : w.Sound g) {i : Nat} (hi : w.Open i)
    (hj : ∀ j, g.Edge i j → j ∈ w.finished) : (w.leave i).Sound g where
  met_nodup := h.met_nodup
  met_lt := h.met_lt
  met_of_finished := by
    intro x hx
    cases List.mem_cons.1 hx with
    | inl hxi => exact hxi ▸ hi.1
    | inr hx' => exact h.met_of_finished x hx'
  finished_nodup := List.nodup_cons.2 ⟨hi.2, h.finished_nodup⟩
  ordered := ⟨hj, h.ordered⟩

theorem open_leave {w : Walk} {i x : Nat} : (w.leave i).Open x ↔ x ≠ i ∧ w.Open x := by
  simp only [Open, Walk.leave, List.mem_cons, not_or]
  exact and_left_comm

/-- A position is entered, there are walks below it, and it is left. -/
theorem Grows.enter_leave {w w' : Walk} {i : Nat} (hs : w.Sound g) (hm : i ∉ w.met)
    (h : (w.enter i).Grows w') : w.Grows (w'.leave i) := by
  constructor
  · exact Nat.le_trans (Nat.le_succ _) h.met
  · exact fun x hx => List.mem_cons_of_mem _ (h.finished x hx)
  · intro x
    rw [open_leave, h.opened, open_enter hs hm]
    constructor
    · rintro ⟨hne, hx⟩
      exact hx.resolve_left hne
    · exact fun hx => ⟨fun h => hm (h ▸ hx.1), Or.inr hx⟩

/-- What is met stays met. -/
theorem Grows.mem_met {w w' : Walk} (h : w.Grows w') (hs' : w'.Sound g) {x : Nat}
    (hx : x ∈ w.met) : x ∈ w'.met := by
  by_cases hf : x ∈ w.finished
  · exact hs'.met_of_finished x (h.finished x hf)
  · exact ((h.opened x).2 ⟨hx, hf⟩).1

end Walk

/-! ## Visits -/

/-- What a visit of a position does to a walk that has got there along edges. -/
def VisitSpec (g : Precedence) (depth : Nat) : Prop :=
  ∀ (i : Nat) (w : Walk), w.Sound g → w.Deep g depth → i < g.size →
    (∀ x, w.Open x → TransGen g.Edge x i) →
      (visit g depth i w).Sound g ∧ w.Grows (visit g depth i w) ∧
        i ∈ (visit g depth i w).finished

/-- Visits one after another. -/
theorem VisitSpec.foldl {depth : Nat} (hv : g.VisitSpec depth) (is : List Nat) :
    ∀ w : Walk, w.Sound g → w.Deep g depth → (∀ i ∈ is, i < g.size) →
      (∀ x, w.Open x → ∀ i ∈ is, TransGen g.Edge x i) →
        let w' := is.foldl (fun w i => visit g depth i w) w
        w'.Sound g ∧ w.Grows w' ∧ ∀ i ∈ is, i ∈ w'.finished := by
  induction is with
  | nil => exact fun w hs _ _ _ => ⟨hs, .refl w, fun _ h => nomatch h⟩
  | cons i rest ih =>
    intro w hs hd hlt ho
    obtain ⟨hs₁, hg₁, hf₁⟩ := hv i w hs hd (hlt i (List.mem_cons_self ..))
      fun x hx => ho x hx i (List.mem_cons_self ..)
    have hd₁ : (visit g depth i w).Deep g depth :=
      Nat.le_trans hd (Nat.add_le_add_left hg₁.met _)
    obtain ⟨hs₂, hg₂, hf₂⟩ := ih (visit g depth i w) hs₁ hd₁
      (fun k hk => hlt k (List.mem_cons_of_mem _ hk))
      fun x hx k hk => ho x ((hg₁.opened x).1 hx) k (List.mem_cons_of_mem _ hk)
    refine ⟨hs₂, hg₁.trans hg₂, fun k hk => ?_⟩
    cases List.mem_cons.1 hk with
    | inl hki => exact hg₂.finished k (hki ▸ hf₁)
    | inr hk' => exact hf₂ k hk'

theorem visit_of_met {i : Nat} {w : Walk} (h : i ∈ w.met) : ∀ depth, visit g depth i w = w
  | 0 => rfl
  | depth + 1 => by simp [visit, h]

theorem visit_of_not_met {depth i : Nat} {w : Walk} (h : i ∉ w.met) :
    visit g (depth + 1) i w
      = ((g.dependentsOf i).foldl (fun w j => visit g depth j w) (w.enter i)).leave i := by
  simp [visit, h, Walk.enter, Walk.leave]

/-- A position that is met already is finished: if it were open, it would lead to
itself. -/
theorem visitSpec_of_met {depth i : Nat} {w : Walk} (ha : g.Acyclic) (hs : w.Sound g)
    (ho : ∀ x, w.Open x → TransGen g.Edge x i) (hm : i ∈ w.met) :
    (visit g depth i w).Sound g ∧ w.Grows (visit g depth i w) ∧
      i ∈ (visit g depth i w).finished := by
  rw [visit_of_met hm]
  refine ⟨hs, .refl w, ?_⟩
  by_cases hf : i ∈ w.finished
  · exact hf
  · exact absurd (ho i ⟨hm, hf⟩) (ha i)

theorem visit_spec (hb : g.Bounded) (ha : g.Acyclic) : ∀ depth, g.VisitSpec depth
  | 0 => fun i w hs hd hi ho => visitSpec_of_met ha hs ho (hs.mem_met hd hi)
  | depth + 1 => by
    intro i w hs hd hi ho
    by_cases hm : i ∈ w.met
    · exact visitSpec_of_met ha hs ho hm
    · have hto : ∀ x, (w.enter i).Open x → ∀ j ∈ g.dependentsOf i, TransGen g.Edge x j := by
        intro x hx j hj
        have he : g.Edge i j := mem_dependentsOf.1 hj
        cases (Walk.open_enter hs hm).1 hx with
        | inl hxi => exact hxi ▸ .single he
        | inr hx' => exact (ho x hx').tail he
      have hdeep : (w.enter i).Deep g depth := by
        simp only [Walk.Deep, Walk.enter, List.length_cons] at hd ⊢
        omega
      obtain ⟨hs', hg', hf'⟩ := (visit_spec hb ha depth).foldl (g.dependentsOf i) (w.enter i)
        (hs.enter hi hm) hdeep (fun j hj => (hb (mem_dependentsOf.1 hj)).2) hto
      rw [visit_of_not_met hm]
      generalize (g.dependentsOf i).foldl (fun w j => visit g depth j w) (w.enter i) = w'
        at hs' hg' hf' ⊢
      have hopen : w'.Open i := (hg'.opened i).2 ((Walk.open_enter hs hm).2 (Or.inl rfl))
      exact ⟨hs'.leave hopen fun j he => hf' j (mem_dependentsOf.2 he), hg'.enter_leave hs hm,
        List.mem_cons_self ..⟩

/-! ## The whole walk -/

/-- Without circles, the walk finishes every position once and keeps its order. -/
theorem walk_finished (hb : g.Bounded) (ha : g.Acyclic) :
    g.walk.finished.Perm (List.range g.size) ∧ g.Ordered g.walk.finished := by
  have hs₀ : (⟨[], []⟩ : Walk).Sound g :=
    ⟨List.nodup_nil, by simp, by simp, List.nodup_nil, trivial⟩
  obtain ⟨hs, -, hf⟩ := (visit_spec hb ha g.size).foldl (List.range g.size) ⟨[], []⟩ hs₀
    (Nat.le_add_right _ _) (fun i hi => List.mem_range.1 hi) fun x hx => nomatch hx.1
  refine ⟨(List.perm_ext_iff_of_nodup hs.finished_nodup List.nodup_range).2 fun i => ?_,
    hs.ordered⟩
  exact ⟨fun hi => List.mem_range.2 (hs.met_lt i (hs.met_of_finished i hi)), hf i⟩

theorem respects_iff {l : List Nat} :
    g.respects l = true ↔ ∀ i j, g.Edge i j → l.idxOf i < l.idxOf j := by
  simp [respects, Edge]

/-- An order that every edge respects leaves no room for a circle. -/
theorem acyclic_of_respects {l : List Nat} (h : g.respects l = true) : g.Acyclic := by
  have hlt : ∀ i j, TransGen g.Edge i j → l.idxOf i < l.idxOf j := by
    intro i j hij
    induction hij with
    | single he => exact respects_iff.1 h _ _ he
    | tail _ he ih => exact Nat.lt_trans ih (respects_iff.1 h _ _ he)
  exact fun i hi => Nat.lt_irrefl _ (hlt i i hi)

theorem respects_walk (hb : g.Bounded) (ha : g.Acyclic) : g.respects g.walk.finished = true := by
  obtain ⟨hp, ho⟩ := walk_finished hb ha
  refine respects_iff.2 fun i j he => ho.idxOf_lt (hp.nodup_iff.2 List.nodup_range) ?_ he
  exact hp.mem_iff.2 (List.mem_range.2 (hb he).1)

/-! ## The order -/

theorem order_eq_finished (hb : g.Bounded) (ha : g.Acyclic) : g.order = g.walk.finished := by
  simp [order, respects_walk hb ha]

theorem order_eq_range (ha : ¬ g.Acyclic) : g.order = List.range g.size := by
  have h : ¬ g.respects g.walk.finished = true := fun h => ha (acyclic_of_respects h)
  simp [order, h]

/-- The order takes every position once. -/
theorem order_perm (hb : g.Bounded) : g.order.Perm (List.range g.size) := by
  by_cases ha : g.Acyclic
  · rw [order_eq_finished hb ha]
    exact (walk_finished hb ha).1
  · rw [order_eq_range ha]

theorem order_nodup (hb : g.Bounded) : g.order.Nodup :=
  (order_perm hb).nodup_iff.2 List.nodup_range

/-- The edges along which the order puts the prerequisite first: all of them if
there is no circle, and otherwise those that run forward in the plan. -/
def Forward (g : Precedence) (i j : Nat) : Prop := g.Edge i j ∧ (g.Acyclic ∨ i < j)

theorem idxOf_range {n i : Nat} (h : i < n) : (List.range n).idxOf i = i := by
  have hlen : i < (List.range n).length := by simpa using h
  simpa using List.Nodup.idxOf_getElem List.nodup_range i hlen

theorem Forward.idxOf_lt {i j : Nat} (hb : g.Bounded) (h : g.Forward i j) :
    g.order.idxOf i < g.order.idxOf j := by
  obtain ⟨he, hf⟩ := h
  by_cases ha : g.Acyclic
  · rw [order_eq_finished hb ha]
    exact respects_iff.1 (respects_walk hb ha) i j he
  · rw [order_eq_range ha, idxOf_range (hb he).1, idxOf_range (hb he).2]
    exact hf.resolve_left ha

/-- When the order comes to a position, it has been at its prerequisites and will
be at neither again. -/
theorem Forward.order_split {i j : Nat} (hb : g.Bounded) (h : g.Forward i j) :
    ∃ before after, g.order = before ++ j :: after ∧ i ∈ before ∧
      (∀ k ∈ after, k ≠ i ∧ k ≠ j) := by
  have hj : j ∈ g.order := (order_perm hb).mem_iff.2 (List.mem_range.2 (hb h.1).2)
  have hlt := h.idxOf_lt hb
  have hnodup := order_nodup hb
  obtain ⟨before, after, heq⟩ := List.append_of_mem hj
  rw [heq] at hlt hnodup
  obtain ⟨-, hafter, hdisj⟩ := List.nodup_append.1 hnodup
  have hj' : j ∉ before := fun hm => hdisj j hm j (List.mem_cons_self ..) rfl
  have hi : i ∈ before := by
    rw [List.idxOf_append, List.idxOf_append, if_neg hj', List.idxOf_cons_self] at hlt
    by_cases hm : i ∈ before
    · exact hm
    · rw [if_neg hm] at hlt
      omega
  refine ⟨before, after, heq, hi, fun k hk => ⟨?_, ?_⟩⟩
  · exact fun hki => hdisj i hi k (List.mem_cons_of_mem _ hk) hki.symm
  · exact fun hkj => (List.nodup_cons.1 hafter).1 (hkj ▸ hk)

end Precedence

end StudyPlan
