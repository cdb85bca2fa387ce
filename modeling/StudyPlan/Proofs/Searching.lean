import StudyPlan.Proofs.Depending
import StudyPlan.Proofs.Ordering

/-!
# Searching with a pile

The walk that `Precedence.order` is taken from goes down by recursion.  Here the same search
keeps a pile of positions instead and does one thing at a time.  A position on top that has
not been met is met, and what follows it and has not been met either is piled on top of it.
A position on top that has been met is taken off, and it is finished unless it is already.
When the pile is empty, the search starts again from the next position of the list.

A position may be in the pile more than once, as it is piled up from everything that it
follows until it is met.  It is met where it is highest, so the others lie below, and they
come to the top when it has been finished.  That is the invariant of the pile: what comes to
the top next is not open.  It holds as a visit leaves the same positions open that were open
before (`Walk.Grows.opened`), whether there are circles or not.

* `descends`: with a position on top that is not open, the search takes it off and does to the
  walk what a visit of the position does.  The induction is on the depth of the visit.
* `finds_iff`: the search ends, and what it has finished is what the walk finishes.
* `order_linear`: the order takes every position once, prerequisites first, and it is what
  the search finds; or it is the order of the plan, if there is a circle.
-/

namespace StudyPlan

namespace Precedence

open Relation (ReflTransGen)

variable {g : Precedence}

/-! ## The search -/

/-- A search under way. -/
structure Search where
  /-- The positions that the search has yet to start from. -/
  starts : List Nat
  /-- The positions piled up, from the top. -/
  pile : List Nat
  /-- The positions met and finished. -/
  walk : Walk

/-- What depends on a position, by the latest pair first. -/
def followers (g : Precedence) (i : Nat) : List Nat :=
  ((g.edges.filter (·.1 == i)).map (·.2)).reverse

namespace Search

/-- The search at its beginning. -/
def start (g : Precedence) : Search := ⟨List.range g.size, [], ⟨[], []⟩⟩

/-- One step of the search; `none` at its end. -/
def step? (g : Precedence) : Search → Option Search
  | ⟨starts, i :: pile, w⟩ =>
    if i ∈ w.met then some ⟨starts, pile, if i ∈ w.finished then w else w.leave i⟩
    else
      let fresh := (g.followers i).filter (· ∉ (w.enter i).met)
      some ⟨starts, fresh.foldl (fun pile j => j :: pile) (i :: pile), w.enter i⟩
  | ⟨i :: starts, [], w⟩ => some ⟨starts, if i ∈ w.met then [] else [i], w⟩
  | ⟨[], [], _⟩ => none

/-- A search comes from one state to another. -/
abbrev Steps (g : Precedence) : Search → Search → Prop :=
  ReflTransGen fun s s' => s.step? g = some s'

end Search

/-- The search ends with these positions finished, the last first. -/
def Finds (g : Precedence) (found : List Nat) : Prop :=
  ∃ s, Search.Steps g (.start g) s ∧ s.step? g = none ∧ s.walk.finished = found

/-! ## Followers -/

/-- The pairs of a dependent stand together, and the dependents ascend up to a bound. -/
structure Grouped (bound : Nat) (edges : List (Nat × Nat)) : Prop where
  ascending : edges.Pairwise (·.2 ≤ ·.2)
  le : ∀ e ∈ edges, e.2 ≤ bound

theorem Grouped.mono {edges : List (Nat × Nat)} {k m : Nat} (h : Grouped k edges) (hle : k ≤ m) :
    Grouped m edges :=
  ⟨h.ascending, fun e he => Nat.le_trans (h.le e he) hle⟩

theorem Grouped.concat {edges : List (Nat × Nat)} {k : Nat} (h : Grouped k edges) (i : Nat) :
    Grouped k (edges ++ [(i, k)]) := by
  constructor
  · refine List.pairwise_append.2 ⟨h.ascending, List.pairwise_singleton _ _, fun e he e' he' => ?_⟩
    rw [List.mem_singleton.1 he']
    exact h.le e he
  · intro e he
    cases List.mem_append.1 he with
    | inl he => exact h.le e he
    | inr he => rw [List.mem_singleton.1 he]

variable {codesOf : PlannedCourse → CodeSet} {found : CodeMap (List Nat)}

theorem Grouped.addSources {edges : List (Nat × Nat)} {k : Nat} (h : Grouped k edges)
    (sources : List Nat) : Grouped k (addSources k edges sources) := by
  refine List.foldlRecOn sources _ (motive := Grouped k) h fun acc hacc i _ => ?_
  split
  · exact hacc
  · exact hacc.concat i

theorem Grouped.addDependent {edges : List (Nat × Nat)} {k : Nat} (h : Grouped k edges)
    (q : PlannedCourse) : Grouped k (addDependent codesOf found edges (q, k)) := by
  unfold Precedence.addDependent
  split
  · exact h
  · exact List.foldlRecOn _ _ (motive := Grouped k) h fun _ hacc _ _ => hacc.addSources _

theorem Grouped.foldl (courses : List PlannedCourse) :
    ∀ {k : Nat} {edges : List (Nat × Nat)}, Grouped k edges →
      Grouped (k + courses.length)
        ((courses.zipIdx k).foldl (Precedence.addDependent codesOf found) edges) := by
  induction courses with
  | nil => exact fun h => h
  | cons q courses ih =>
    intro k edges h
    have hfirst : Grouped k (Precedence.addDependent codesOf found edges (q, k)) :=
      h.addDependent q
    have hrest := ih (hfirst.mono (Nat.le_succ k))
    rwa [Nat.succ_add_eq_add_succ] at hrest

theorem grouped_join (codesOf : PlannedCourse → CodeSet) (courses : List PlannedCourse) :
    (join codesOf courses).edges.Pairwise (·.2 ≤ ·.2) :=
  (Grouped.foldl courses ⟨.nil, fun _ he => nomatch he⟩ : Grouped (0 + courses.length) _).ascending

/-- What follows a position is piled up so that the first of it is on top. -/
theorem followers_reverse (h : g.edges.Pairwise (·.2 ≤ ·.2)) (i : Nat) :
    (g.followers i).reverse = g.dependentsOf i := by
  have hsorted : ((g.edges.filter (·.1 == i)).map (·.2)).Pairwise (· ≤ ·) :=
    List.pairwise_map.2 (h.filter _)
  rw [followers, List.reverse_reverse, dependentsOf, neighbours, ascending_eq]
  exact hsorted.insertionSort_eq.symm

/-! ## Piles and visits -/

/-- The positions alone. -/
def bare (g : Precedence) : Precedence := ⟨g.size, []⟩

namespace Walk

theorem Sound.leave_bare {w : Walk} (h : w.Sound g.bare) {i : Nat} (hi : w.Open i) :
    (w.leave i).Sound g.bare :=
  h.leave hi fun _ he => nomatch he

theorem not_open_of_not_met {w : Walk} {x : Nat} (hx : x ∉ w.met) : ¬ w.Open x :=
  fun h => hx h.1

end Walk

/-- What a search has done to the walk when it has taken a position off the pile. -/
structure TakenOff (g : Precedence) (i : Nat) (w w' : Walk) : Prop where
  sound : w'.Sound g.bare
  grows : w.Grows w'
  finished : i ∈ w'.finished
  steps : ∀ starts pile, Search.Steps g ⟨starts, i :: pile, w⟩ ⟨starts, pile, w'⟩

/-- With a position on top that is not open, the search does what a visit of it does. -/
def Descends (g : Precedence) (depth : Nat) : Prop :=
  ∀ (i : Nat) (w : Walk), w.Sound g.bare → w.Deep g depth → i < g.size → ¬ w.Open i →
    g.TakenOff i w (visit g depth i w)

/-- Positions one after another, of which those that are passed over are not piled up. -/
theorem Descends.foldl {depth : Nat} (hv : g.Descends depth) (passed : Nat → Bool)
    (js : List Nat) :
    ∀ w : Walk, w.Sound g.bare → w.Deep g depth → (∀ j ∈ js, j < g.size) →
      (∀ j ∈ js, passed j = true → j ∈ w.met) → (∀ j ∈ js, passed j = false → ¬ w.Open j) →
        let w' := js.foldl (fun w j => visit g depth j w) w
        w'.Sound g.bare ∧ w.Grows w' ∧ ∀ starts pile,
          Search.Steps g ⟨starts, js.filter (!passed ·) ++ pile, w⟩ ⟨starts, pile, w'⟩ := by
  induction js with
  | nil => exact fun w hs _ _ _ _ => ⟨hs, .refl w, fun _ _ => .refl⟩
  | cons j js ih =>
    intro w hs hd hlt hmet hopen
    rw [List.forall_mem_cons] at hlt hmet hopen
    cases hj : passed j with
    | true =>
      rw [List.filter_cons_of_neg (by simp [hj]), List.foldl_cons, visit_of_met (hmet.1 hj)]
      exact ih w hs hd hlt.2 hmet.2 hopen.2
    | false =>
      obtain ⟨hs₁, hg₁, -, hsteps₁⟩ := hv j w hs hd hlt.1 (hopen.1 hj)
      obtain ⟨hs₂, hg₂, hsteps₂⟩ := ih (visit g depth j w) hs₁
        (Nat.le_trans hd (Nat.add_le_add_left hg₁.met _)) hlt.2
        (fun k hk hp => hg₁.mem_met hs₁ (hmet.2 k hk hp))
        fun k hk hp => (not_congr (hg₁.opened k)).2 (hopen.2 k hk hp)
      refine ⟨hs₂, hg₁.trans hg₂, fun starts pile => ?_⟩
      rw [List.filter_cons_of_pos (by simp [hj])]
      exact (hsteps₁ starts _).trans (hsteps₂ starts pile)

/-- A position that has been met is taken off the pile. -/
theorem takenOff_of_met {depth i : Nat} {w : Walk} (hs : w.Sound g.bare) (ho : ¬ w.Open i)
    (hm : i ∈ w.met) : g.TakenOff i w (visit g depth i w) := by
  have hf : i ∈ w.finished := by
    by_contra hf
    exact ho ⟨hm, hf⟩
  rw [visit_of_met hm]
  refine ⟨hs, .refl w, hf, fun starts pile => .single ?_⟩
  simp only [Search.step?, if_pos hm, if_pos hf]

theorem descends (hb : g.Bounded) (hgroup : g.edges.Pairwise (·.2 ≤ ·.2)) :
    ∀ depth, g.Descends depth
  | 0 => fun i w hs hd hi ho => takenOff_of_met hs ho (hs.mem_met hd hi)
  | depth + 1 => by
    intro i w hs hd hi ho
    by_cases hm : i ∈ w.met
    · exact takenOff_of_met hs ho hm
    have hdeep : (w.enter i).Deep g depth := by
      simp only [Walk.Deep, Walk.enter, List.length_cons] at hd ⊢
      omega
    obtain ⟨hs', hg', hsteps⟩ := (descends hb hgroup depth).foldl
      (fun j => decide (j ∈ (w.enter i).met)) (g.dependentsOf i) (w.enter i) (hs.enter hi hm) hdeep
      (fun j hj => (hb (mem_dependentsOf.1 hj)).2) (fun _ _ hj => of_decide_eq_true hj)
      fun _ _ hj => Walk.not_open_of_not_met (of_decide_eq_false hj)
    rw [visit_of_not_met hm]
    generalize (g.dependentsOf i).foldl (fun w j => visit g depth j w) (w.enter i) = w'
      at hs' hg' hsteps ⊢
    have hopen : w'.Open i := (hg'.opened i).2 ((Walk.open_enter hs hm).2 (Or.inl rfl))
    refine ⟨hs'.leave_bare hopen, hg'.enter_leave hs hm, List.mem_cons_self .., ?_⟩
    intro starts pile
    have hpush : Search.step? g ⟨starts, i :: pile, w⟩ = some ⟨starts,
        (g.dependentsOf i).filter (fun j => !decide (j ∈ (w.enter i).met)) ++ i :: pile,
        w.enter i⟩ := by
      rw [← followers_reverse hgroup]
      simp [Search.step?, hm, List.filter_reverse]
    have hpop : Search.step? g ⟨starts, i :: pile, w'⟩ = some ⟨starts, pile, w'.leave i⟩ := by
      simp only [Search.step?, if_pos hopen.1, if_neg hopen.2]
    exact .head hpush ((hsteps starts (i :: pile)).tail hpop)

/-! ## The whole search -/

/-- The search from the positions that are left, with nothing piled up. -/
theorem steps_of_starts (hb : g.Bounded) (hgroup : g.edges.Pairwise (·.2 ≤ ·.2))
    (starts : List Nat) :
    ∀ w : Walk, w.Sound g.bare → (∀ i ∈ starts, i < g.size) → (∀ x, ¬ w.Open x) →
      let w' := starts.foldl (fun w i => visit g g.size i w) w
      w'.Sound g.bare ∧ w.Grows w' ∧ (∀ i ∈ starts, i ∈ w'.finished) ∧
        Search.Steps g ⟨starts, [], w⟩ ⟨[], [], w'⟩ := by
  induction starts with
  | nil =>
    intro w hs _ _
    refine ⟨hs, .refl w, fun _ h => ?_, .refl⟩
    cases h
  | cons i starts ih =>
    intro w hs hlt hopen
    rw [List.forall_mem_cons] at hlt
    obtain ⟨hs₁, hg₁, hf₁, hsteps₁⟩ := descends hb hgroup g.size i w hs (Nat.le_add_right _ _)
      hlt.1 (hopen i)
    obtain ⟨hs₂, hg₂, hf₂, hsteps₂⟩ := ih (visit g g.size i w) hs₁ hlt.2
      fun x => (not_congr (hg₁.opened x)).2 (hopen x)
    refine ⟨hs₂, hg₁.trans hg₂, List.forall_mem_cons.2 ⟨hg₂.finished i hf₁, hf₂⟩, ?_⟩
    have hstart : Search.step? g ⟨i :: starts, [], w⟩
        = some ⟨starts, if i ∈ w.met then [] else [i], w⟩ := rfl
    refine .head hstart (ReflTransGen.trans ?_ hsteps₂)
    by_cases hm : i ∈ w.met
    · rw [if_pos hm, visit_of_met hm]
    · rw [if_neg hm]
      exact hsteps₁ starts []

/-- The search ends with every position finished once, and as the walk does. -/
theorem walk_search (hb : g.Bounded) (hgroup : g.edges.Pairwise (·.2 ≤ ·.2)) :
    g.walk.finished.Perm (List.range g.size) ∧ Search.Steps g (.start g) ⟨[], [], g.walk⟩ := by
  have hs₀ : (⟨[], []⟩ : Walk).Sound g.bare :=
    ⟨List.nodup_nil, by simp, by simp, List.nodup_nil, trivial⟩
  obtain ⟨hs, -, hf, hsteps⟩ := steps_of_starts hb hgroup (List.range g.size) ⟨[], []⟩ hs₀
    (fun i hi => List.mem_range.1 hi) fun x hx => nomatch hx.1
  refine ⟨(List.perm_ext_iff_of_nodup hs.finished_nodup List.nodup_range).2 fun i => ?_, hsteps⟩
  exact ⟨fun hi => List.mem_range.2 (hs.met_lt i (hs.met_of_finished i hi)), hf i⟩

/-- A search has one end. -/
theorem Search.Steps.end_unique {s s₁ s₂ : Search} (h₁ : Steps g s s₁) (h₂ : Steps g s s₂)
    (hend₁ : s₁.step? g = none) (hend₂ : s₂.step? g = none) : s₁ = s₂ := by
  have hunique : Relator.RightUnique fun s s' : Search => s.step? g = some s' :=
    fun _ _ _ h h' => Option.some.inj (h.symm.trans h')
  have hstuck {s s' : Search} (hend : s.step? g = none) (h : Steps g s s') : s = s' := by
    rcases h.cases_head with heq | ⟨next, hstep, -⟩
    · exact heq
    · rw [hend] at hstep
      cases hstep
  cases ReflTransGen.total_of_right_unique hunique h₁ h₂ with
  | inl h => exact hstuck hend₁ h
  | inr h => exact (hstuck hend₂ h).symm

theorem finds_iff (hb : g.Bounded) (hgroup : g.edges.Pairwise (·.2 ≤ ·.2)) {found : List Nat} :
    g.Finds found ↔ found = g.walk.finished := by
  have hsteps := (walk_search hb hgroup).2
  constructor
  · rintro ⟨s, hs, hend, rfl⟩
    rw [hs.end_unique hsteps hend rfl]
  · rintro rfl
    exact ⟨_, hsteps, rfl, rfl⟩

/-- The order takes every position once.  Without a circle it is what the search finds, and
every prerequisite stands before its dependents; with a circle it is the order of the plan. -/
theorem order_linear (catalog : Catalog) (courses : List PlannedCourse) :
    let g := ofCourses catalog courses
    g.order.Perm (List.range courses.length) ∧
    (g.Acyclic → ∀ i j, g.Edge i j → g.order.idxOf i < g.order.idxOf j) ∧
    (¬ g.Acyclic → g.order = List.range courses.length) ∧
    ∃ found, (∀ l, g.Finds l ↔ l = found) ∧ found.Perm (List.range courses.length) ∧
      (g.Acyclic → g.order = found) := by
  intro g
  have hb : g.Bounded := ofCourses_bounded catalog courses
  have hgroup : g.edges.Pairwise (·.2 ≤ ·.2) := grouped_join _ courses
  refine ⟨order_perm hb, fun ha i j he => ?_, order_eq_range, g.walk.finished,
    fun _ => finds_iff hb hgroup, (walk_search hb hgroup).1, order_eq_finished hb⟩
  exact Forward.idxOf_lt hb ⟨he, Or.inl ha⟩

/-- A chain of courses, of which the third asks for the first as well, and two that ask for
each other. -/
def entwined : List Course :=
  [{ code := "MATH 100", credits := 3 },
    { code := "MATH 101", credits := 3, prerequisiteText := some "MATH 100" },
    { code := "MATH 102", credits := 3, prerequisiteText := some "MATH 100 and MATH 101" },
    { code := "MATH 103", credits := 3, prerequisiteText := some "MATH 102" },
    { code := "MATH 200", credits := 3, prerequisiteText := some "MATH 201" },
    { code := "MATH 201", credits := 3, prerequisiteText := some "MATH 200" }]

/-- Courses of the chain and of the circle, planned in some order. -/
def plannedEntwined (codes : List String) : List PlannedCourse :=
  (codes.filterMap (Catalog.ofCourses entwined).get?).zipIdx.map fun (course, i) =>
    { PlannedCourse.required course none with id := i + 1 }

/-- The search of the chain has its third course in the pile twice, and the circle is left as
it is planned. -/
theorem order_linear_entwined :
    let catalog := Catalog.ofCourses entwined
    let chain := ofCourses catalog
      (plannedEntwined ["MATH 103", "MATH 100", "MATH 101", "MATH 102"])
    let circle := ofCourses catalog (plannedEntwined ["MATH 201", "MATH 200"])
    chain.Acyclic ∧ chain.edges = [(3, 0), (1, 2), (1, 3), (2, 3)] ∧ chain.Finds [1, 2, 3, 0] ∧
      chain.order = [1, 2, 3, 0] ∧ chain.order.idxOf 3 < chain.order.idxOf 0 ∧
      ¬ circle.Acyclic ∧ circle.order = [0, 1] := by
  intro catalog chain circle
  obtain ⟨-, hforward, -, found, hfinds, -, hfound⟩ := order_linear catalog
    (plannedEntwined ["MATH 103", "MATH 100", "MATH 101", "MATH 102"])
  obtain ⟨-, -, hplan, -⟩ := order_linear catalog (plannedEntwined ["MATH 201", "MATH 200"])
  have hedges : chain.edges = [(3, 0), (1, 2), (1, 3), (2, 3)] := by decide +kernel
  have hchain : chain.Acyclic :=
    acyclic_of_respects (show chain.respects [1, 2, 3, 0] = true by decide +kernel)
  have horder : chain.order = [1, 2, 3, 0] := by decide +kernel
  have hthere : circle.Edge 0 1 := by
    show (0, 1) ∈ circle.edges
    decide +kernel
  have hback : circle.Edge 1 0 := by
    show (1, 0) ∈ circle.edges
    decide +kernel
  have hcircle : ¬ circle.Acyclic := fun h => h 0 (.tail (.single hthere) hback)
  refine ⟨hchain, hedges, (hfinds _).2 ?_, horder, hforward hchain 3 0 ?_, hcircle,
    hplan hcircle⟩
  · rw [← hfound hchain, horder]
  · show (3, 0) ∈ chain.edges
    rw [hedges]
    exact List.mem_cons_self ..

end Precedence

end StudyPlan
