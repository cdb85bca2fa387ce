import Mathlib.Data.List.Nodup
import Mathlib.Data.List.Sort
import StudyPlan.Proofs.Lookup
import StudyPlan.Timetable.Precedence

/-!
# Joining codes with positions

The pairs of a precedence are gathered by three folds, one inside the other: over the
dependents, over the codes that each asks for, and over the positions of each code.  Each of
them only adds pairs, so that a pair is there in the end if one of its steps has added it
(`mem_foldl_of_adds`).  And no step adds a pair that is there (`nodup_addSources`), although
a dependent may come to a position by more than one way: two of its codes might lead there,
and nothing is asked of the codes but that they are listed.

A code has the positions at which it is shown (`items_positions`), however many they are.
So the join is what it stands for, whatever codes it is given for each planned course: a
pair is there exactly once if one of the two shows a code that the other asks for
(`mem_edges_join`, `nodup_edges_join`).
-/

namespace StudyPlan

namespace Precedence

variable {codesOf : PlannedCourse → CodeSet} {courses : List PlannedCourse}
  {found : CodeMap (List Nat)} {edges : List (Nat × Nat)} {dependent : Nat}

/-- What steps that only add have added in the end. -/
theorem mem_foldl_of_adds {α β : Type} {step : List β → α → List β} {Adds : α → β → Prop}
    (h : ∀ acc a b, b ∈ step acc a ↔ b ∈ acc ∨ Adds a b) (l : List α) (acc : List β) (b : β) :
    b ∈ l.foldl step acc ↔ b ∈ acc ∨ ∃ a ∈ l, Adds a b := by
  induction l generalizing acc with
  | nil => simp
  | cons a l ih => rw [List.foldl_cons, ih, h, List.exists_mem_cons_iff, or_assoc]

/-! ## Positions -/

theorem items_positions (courses : List PlannedCourse) (code : String) :
    (positions courses).items code
      = (courses.zipIdx.filter fun (p, _) => p.code == code).map (·.2) := by
  have hfold : ∀ (l : List (PlannedCourse × Nat)) (found : CodeMap (List Nat)),
      (l.foldl (fun found (p, i) => found.push p.code i) found).items code
        = found.items code ++ (l.filter fun (p, _) => p.code == code).map (·.2) := by
    intro l
    induction l with
    | nil => simp
    | cons head l ih =>
      intro found
      obtain ⟨p, i⟩ := head
      rw [List.foldl_cons, ih, CodeMap.items_push]
      by_cases hcode : code = p.code
      · rw [if_pos hcode, List.filter_cons_of_pos (by simpa using hcode.symm), List.map_cons,
          List.append_assoc, List.singleton_append]
      · rw [if_neg hcode, List.filter_cons_of_neg (by simpa using Ne.symm hcode)]
  exact hfold courses.zipIdx []

theorem mem_positions {code : String} {i : Nat} :
    i ∈ (positions courses).items code ↔ ∃ p, courses[i]? = some p ∧ p.code = code := by
  simp [items_positions, List.mem_zipIdx_iff_getElem?]

/-! ## Pairs -/

theorem mem_addSources {sources : List Nat} {e : Nat × Nat} :
    e ∈ addSources dependent edges sources ↔
      e ∈ edges ∨ ∃ i ∈ sources, i ≠ dependent ∧ e = (i, dependent) := by
  have hstep : ∀ (acc : List (Nat × Nat)) (i : Nat) (e : Nat × Nat),
      e ∈ (if i = dependent ∨ acc.contains (i, dependent) then acc else acc ++ [(i, dependent)]) ↔
        e ∈ acc ∨ i ≠ dependent ∧ e = (i, dependent) := by
    intro acc i e
    by_cases hself : i = dependent
    · simp [hself]
    · by_cases hold : (i, dependent) ∈ acc
      · have hmem : e = (i, dependent) → e ∈ acc := fun he => he ▸ hold
        simpa [hself, hold] using hmem
      · simp [hself, hold]
  exact mem_foldl_of_adds hstep sources edges e

theorem nodup_addSources (h : edges.Nodup) (sources : List Nat) :
    (addSources dependent edges sources).Nodup := by
  refine List.foldlRecOn sources _ (motive := List.Nodup) h fun acc hacc i _ => ?_
  split
  · exact hacc
  next hnew =>
    have hnot : (i, dependent) ∉ acc := fun hmem =>
      hnew (Or.inr (List.contains_iff_mem.2 hmem))
    rw [← List.concat_eq_append]
    exact hacc.concat hnot

theorem mem_addDependent {q : PlannedCourse} {e : Nat × Nat} :
    e ∈ addDependent codesOf found edges (q, dependent) ↔
      e ∈ edges ∨ isFree q = false ∧
        ∃ code ∈ codesOf q, ∃ i ∈ found.items code, i ≠ dependent ∧ e = (i, dependent) := by
  have hstep : ∀ (acc : List (Nat × Nat)) (code : String) (e : Nat × Nat),
      e ∈ addSources dependent acc (found.items code) ↔
        e ∈ acc ∨ ∃ i ∈ found.items code, i ≠ dependent ∧ e = (i, dependent) :=
    fun _ _ _ => mem_addSources
  unfold addDependent
  cases hfree : isFree q with
  | true => simp
  | false => simpa using mem_foldl_of_adds hstep (codesOf q) edges e

theorem nodup_addDependent (h : edges.Nodup) (q : PlannedCourse × Nat) :
    (addDependent codesOf found edges q).Nodup := by
  unfold addDependent
  split
  · exact h
  · exact List.foldlRecOn _ _ (motive := List.Nodup) h fun _ hacc _ _ => nodup_addSources hacc _

/-- There is a pair exactly from the planned courses whose code is asked for. -/
theorem mem_edges_join {i j : Nat} :
    (i, j) ∈ (join codesOf courses).edges ↔
      ∃ p q, courses[i]? = some p ∧ courses[j]? = some q ∧ i ≠ j ∧ isFree q = false ∧
        p.code ∈ codesOf q := by
  have hstep : ∀ (acc : List (Nat × Nat)) (q : PlannedCourse × Nat) (e : Nat × Nat),
      e ∈ addDependent codesOf (positions courses) acc q ↔
        e ∈ acc ∨ isFree q.1 = false ∧ ∃ code ∈ codesOf q.1,
          ∃ i ∈ (positions courses).items code, i ≠ q.2 ∧ e = (i, q.2) :=
    fun _ _ _ => mem_addDependent
  refine (mem_foldl_of_adds hstep courses.zipIdx [] (i, j)).trans ?_
  simp only [List.not_mem_nil, false_or, Prod.exists, List.mem_zipIdx_iff_getElem?, mem_positions]
  constructor
  · rintro ⟨q, k, hq, hfree, code, hcode, i', ⟨p, hp, rfl⟩, hne, heq⟩
    obtain ⟨rfl, rfl⟩ := Prod.mk.inj heq
    exact ⟨p, q, hp, hq, hne, hfree, hcode⟩
  · rintro ⟨p, q, hp, hq, hne, hfree, hcode⟩
    exact ⟨q, j, hq, hfree, p.code, hcode, i, ⟨p, hp, rfl⟩, hne, rfl⟩

theorem nodup_edges_join (codesOf : PlannedCourse → CodeSet) (courses : List PlannedCourse) :
    (join codesOf courses).edges.Nodup :=
  List.foldlRecOn _ _ (motive := List.Nodup) List.nodup_nil fun _ hacc q _ =>
    nodup_addDependent hacc q

/-! ## What is asked for -/

/-- The codes matter only of the planned courses that are joined. -/
theorem join_congr {codesOf' : PlannedCourse → CodeSet} (h : ∀ p ∈ courses, codesOf p = codesOf' p) :
    join codesOf courses = join codesOf' courses := by
  unfold join
  congr 1
  refine List.foldl_ext _ _ [] fun edges q hq => ?_
  obtain ⟨q, dependent⟩ := q
  have hmem : q ∈ courses := List.mem_of_getElem? (List.mem_zipIdx_iff_getElem?.1 hq)
  unfold addDependent
  rw [h q hmem]

/-- What the catalogue has gathered is what a course of it asks for, also where it has
nothing and the course is looked through. -/
theorem codesFor_of_mem {cs : List Course} (hascii : ∀ c ∈ cs, Code.IsAscii c.code.toList)
    {p : PlannedCourse} (hp : p.course ∈ (Catalog.ofCourses cs).courses) :
    codesFor (Catalog.ofCourses cs) p = p.course.prerequisiteCodes := by
  have hget : (Catalog.ofCourses cs).get? p.code = some p.course :=
    Catalog.get?_of_mem hascii hp
  rw [codesFor, Catalog.prerequisitesOf?_eq, hget, Option.map_some,
    Option.filter_some]
  cases h : p.course.prerequisiteCodes with
  | nil => rfl
  | cons code codes => rfl

/-! ## Neighbours -/

theorem putAscending_eq (n : Nat) (ns : List Nat) :
    putAscending n ns = ns.orderedInsert (· ≤ ·) n := by
  induction ns with
  | nil => rfl
  | cons m ns ih => rw [putAscending, List.orderedInsert_cons, ih]

theorem ascending_eq (ns : List Nat) : ascending ns = ns.insertionSort (· ≤ ·) := by
  induction ns with
  | nil => rfl
  | cons n ns ih => rw [List.insertionSort_cons, ← ih, ← putAscending_eq]; rfl

theorem neighbours_perm (g : Precedence) (this other : Nat × Nat → Nat) (i : Nat) :
    (g.neighbours this other i).Perm ((g.edges.filter (this · == i)).map other) := by
  rw [neighbours, ascending_eq]
  exact List.perm_insertionSort ..

theorem mem_prerequisitesOf {g : Precedence} {i j : Nat} :
    i ∈ g.prerequisitesOf j ↔ (i, j) ∈ g.edges := by
  rw [prerequisitesOf, (neighbours_perm ..).mem_iff]
  simp

theorem mem_dependentsOf {g : Precedence} {i j : Nat} :
    j ∈ g.dependentsOf i ↔ (i, j) ∈ g.edges := by
  rw [dependentsOf, (neighbours_perm ..).mem_iff]
  simp

/-- Neighbours are listed in ascending order, each once, if no pair comes twice. -/
theorem pairwise_neighbours {g : Precedence} (h : g.edges.Nodup) {this other : Nat × Nat → Nat}
    (hpair : ∀ e e', this e = this e' → other e = other e' → e = e') (i : Nat) :
    (g.neighbours this other i).Pairwise (· < ·) := by
  have hnodup : ((g.edges.filter (this · == i)).map other).Nodup := by
    refine List.Nodup.map_on (fun e he e' he' heq => ?_) (h.filter _)
    have hthis : this e = i := by simpa using (List.mem_filter.1 he).2
    have hthis' : this e' = i := by simpa using (List.mem_filter.1 he').2
    exact hpair e e' (hthis.trans hthis'.symm) heq
  have hne : (g.neighbours this other i).Pairwise (· ≠ ·) :=
    (neighbours_perm ..).nodup_iff.2 hnodup
  rw [neighbours, ascending_eq] at hne ⊢
  exact ((List.pairwise_insertionSort (· ≤ ·) _).and hne).imp fun ⟨hle, hne⟩ =>
    Nat.lt_of_le_of_ne hle hne

theorem pairwise_prerequisitesOf {g : Precedence} (h : g.edges.Nodup) (i : Nat) :
    (g.prerequisitesOf i).Pairwise (· < ·) :=
  pairwise_neighbours h (fun _ _ hthis hother => Prod.ext hother hthis) i

theorem pairwise_dependentsOf {g : Precedence} (h : g.edges.Nodup) (i : Nat) :
    (g.dependentsOf i).Pairwise (· < ·) :=
  pairwise_neighbours h (fun _ _ hthis hother => Prod.ext hthis hother) i

end Precedence

end StudyPlan
