import Mathlib.Data.List.Sort
import StudyPlan.Plan.Check
import StudyPlan.Proofs.Joining

/-!
# What depends on what

A planned course *depends* on another if its course asks for the code that the other shows,
by its tree or by its text, and it is not a search slot that shows its placeholder
(`PlannedCourse.DependsOn`).  This says nothing of a catalogue or of an index.

`ofCourses_exact` says that the precedence is this relation and no more.  Its pairs come from
the index of the catalogue, and it makes no difference if every course is looked through
instead: for a course of the catalogue both give the same codes (`codesFor_of_mem`).  The
numbers of the dependents follow in the order of the plan, as positions are listed in
ascending order.
-/

namespace StudyPlan

/-- A planned course asks for the code that another one shows. -/
structure PlannedCourse.DependsOn (q p : PlannedCourse) : Prop where
  bound : Precedence.isFree q = false
  asks : p.code ∈ q.course.prerequisiteCodes

instance (q p : PlannedCourse) : Decidable (q.DependsOn p) :=
  decidable_of_iff (Precedence.isFree q = false ∧ p.code ∈ q.course.prerequisiteCodes)
    ⟨fun h => ⟨h.1, h.2⟩, fun h => ⟨h.bound, h.asks⟩⟩

namespace Precedence

variable {cs : List Course} {courses : List PlannedCourse}

/-! ## The relation -/

/-- A precedence that is what the planned courses ask for. -/
structure Exact (courses : List PlannedCourse) (g : Precedence) : Prop where
  edge_iff : ∀ i j, (i, j) ∈ g.edges ↔
    ∃ p q, courses[i]? = some p ∧ courses[j]? = some q ∧ i ≠ j ∧ q.DependsOn p
  once : g.edges.Nodup
  mirrored : ∀ i j, i ∈ g.prerequisitesOf j ↔ j ∈ g.dependentsOf i
  prerequisites_ascending : ∀ j, (g.prerequisitesOf j).Pairwise (· < ·)
  dependents_ascending : ∀ i, (g.dependentsOf i).Pairwise (· < ·)

/-- Looking through every course gives the relation. -/
theorem exact_join (courses : List PlannedCourse) :
    Exact courses (join (·.course.prerequisiteCodes) courses) where
  edge_iff := by
    intro i j
    rw [mem_edges_join]
    constructor
    · rintro ⟨p, q, hp, hq, hne, hbound, hasks⟩
      exact ⟨p, q, hp, hq, hne, hbound, hasks⟩
    · rintro ⟨p, q, hp, hq, hne, h⟩
      exact ⟨p, q, hp, hq, hne, h.bound, h.asks⟩
  once := nodup_edges_join ..
  mirrored := fun _ _ => mem_prerequisitesOf.trans mem_dependentsOf.symm
  prerequisites_ascending := pairwise_prerequisitesOf (nodup_edges_join ..)
  dependents_ascending := pairwise_dependentsOf (nodup_edges_join ..)

/-- The index of a catalogue gives the same as looking through its courses. -/
theorem ofCourses_eq_join (hascii : ∀ c ∈ cs, Code.IsAscii c.code.toList)
    (hcourses : ∀ p ∈ courses, p.course ∈ (Catalog.ofCourses cs).courses) :
    ofCourses (.ofCourses cs) courses = join (·.course.prerequisiteCodes) courses :=
  join_congr fun p hp => codesFor_of_mem hascii (hcourses p hp)

/-! ## Dependents -/

/-- The planned courses, with their positions, that depend on the one at a position. -/
def dependentsAmong (courses : List PlannedCourse) (i : Nat) (p : PlannedCourse) :
    List (PlannedCourse × Nat) :=
  courses.zipIdx.filter fun (q, j) => i ≠ j ∧ q.DependsOn p

theorem mem_dependentsAmong {i j : Nat} {p q : PlannedCourse} :
    (q, j) ∈ dependentsAmong courses i p ↔ courses[j]? = some q ∧ i ≠ j ∧ q.DependsOn p := by
  simp [dependentsAmong, List.mem_zipIdx_iff_getElem?]

theorem pairwise_dependentsAmong (courses : List PlannedCourse) (i : Nat) (p : PlannedCourse) :
    ((dependentsAmong courses i p).map (·.2)).Pairwise (· < ·) := by
  have hsub : ((dependentsAmong courses i p).map (·.2)).Sublist (courses.zipIdx.map (·.2)) :=
    List.filter_sublist.map _
  refine List.Pairwise.sublist hsub ?_
  rw [List.zipIdx_map_snd]
  exact List.pairwise_lt_range' 1

/-- Ascending numbers are determined by which they are. -/
theorem eq_of_ascending {ns ms : List Nat} (hns : ns.Pairwise (· < ·)) (hms : ms.Pairwise (· < ·))
    (h : ∀ n, n ∈ ns ↔ n ∈ ms) : ns = ms :=
  ((List.perm_ext_iff_of_nodup hns.nodup hms.nodup).2 h).eq_of_pairwise
    (fun _ _ _ _ hlt hgt => absurd hgt (Nat.lt_asymm hlt)) hns hms

theorem Exact.dependentsOf_eq {g : Precedence} (h : Exact courses g) {i : Nat} {p : PlannedCourse}
    (hp : courses[i]? = some p) :
    g.dependentsOf i = (dependentsAmong courses i p).map (·.2) := by
  refine eq_of_ascending (h.dependents_ascending i) (pairwise_dependentsAmong ..) fun j => ?_
  rw [mem_dependentsOf, h.edge_iff, List.mem_map]
  constructor
  · rintro ⟨p', q, hp', hq, hne, hdep⟩
    obtain rfl : p' = p := Option.some.inj (hp'.symm.trans hp)
    exact ⟨(q, j), mem_dependentsAmong.2 ⟨hq, hne, hdep⟩, rfl⟩
  · rintro ⟨⟨q, k⟩, hmem, rfl⟩
    obtain ⟨hq, hne, hdep⟩ := mem_dependentsAmong.1 hmem
    exact ⟨p, q, hp, hq, hne, hdep⟩

/-- What is given out for a number: the numbers of what depends on the first planned course
of the number, in the order of the plan. -/
inductive Answers (courses : List PlannedCourse) (id : Nat) :
    Except PlanningError (List Nat) → Prop
  /-- There is no such planned course. -/
  | notPlanned (h : ∀ p ∈ courses, p.id ≠ id) : Answers courses id (.error (.notPlanned id))
  /-- There is one. -/
  | planned (i : Nat) (p : PlannedCourse) (hp : courses[i]? = some p) (hid : p.id = id)
      (hfirst : ∀ k q, k < i → courses[k]? = some q → q.id ≠ id) :
      Answers courses id (.ok ((dependentsAmong courses i p).map (·.1.id)))

theorem ids_of_dependentsAmong (i : Nat) (p : PlannedCourse) :
    ((dependentsAmong courses i p).map (·.2)).filterMap (fun j => courses[j]?.map (·.id))
      = (dependentsAmong courses i p).map (·.1.id) := by
  rw [List.filterMap_map, ← List.filterMap_eq_map]
  refine List.filterMap_congr fun q hq => ?_
  obtain ⟨q, j⟩ := q
  simp [(mem_dependentsAmong.1 hq).1]

theorem answers_dependents {catalog : Catalog} {plan : Plan}
    (h : Exact plan.courses (ofCourses catalog plan.courses)) (id : Nat) :
    Answers plan.courses id (plan.dependents catalog id) := by
  unfold Plan.dependents
  cases hpos : plan.position? id with
  | none =>
    refine .notPlanned fun p hp => ?_
    simpa using List.findIdx?_eq_none_iff.1 hpos p hp
  | some i =>
    obtain ⟨hi, hid, hfirst⟩ := List.findIdx?_eq_some_iff_getElem.1 hpos
    have hp : plan.courses[i]? = some plan.courses[i] := List.getElem?_eq_getElem hi
    simp only [h.dependentsOf_eq hp, ids_of_dependentsAmong]
    refine .planned i plan.courses[i] hp (by simpa using hid) fun k q hk hq => ?_
    obtain ⟨hlt, rfl⟩ := List.getElem?_eq_some_iff.1 hq
    simpa using hfirst k hk

/-- For courses of a catalogue of ASCII codes, the precedence is what they ask for, whether
the index is read or every course is looked through, and the dependents that are given out
are those. -/
theorem ofCourses_exact (cs : List Course) (hascii : ∀ c ∈ cs, Code.IsAscii c.code.toList)
    (courses : List PlannedCourse)
    (hcourses : ∀ p ∈ courses, p.course ∈ (Catalog.ofCourses cs).courses) :
    let g := ofCourses (.ofCourses cs) courses
    Exact courses g ∧ g = join (·.course.prerequisiteCodes) courses ∧
      ∀ plan : Plan, plan.courses = courses → ∀ id,
        Answers courses id (plan.dependents (.ofCourses cs) id) := by
  intro g
  have hrescan : g = join (·.course.prerequisiteCodes) courses := ofCourses_eq_join hascii hcourses
  have hexact : Exact courses g := hrescan ▸ exact_join courses
  refine ⟨hexact, hrescan, fun plan hplan id => ?_⟩
  subst hplan
  exact answers_dependents hexact id

/-- Courses of which the second is listed again, without asking for anything, and of which
the generic elective asks for a course. -/
def relisted : List Course :=
  [{ code := "MATH 100", credits := 3 },
    { code := "MATH 101", credits := 3, prerequisiteText := some "MATH 100" },
    { code := "math101", credits := 3 },
    { code := "MATH 200", credits := 3, prerequisiteText := some "MATH 101 and MATH 200"
      prerequisites := some ⟨some .root, some .course, some (.text "math100"), []⟩ },
    { code := "ELEC", credits := 3, prerequisiteText := some "MATH 100", isPlaceholder := true }]

/-- The first course is planned twice.  The third and the fifth planned course are slots, and
the latter is filled. -/
def twice : List PlannedCourse :=
  let catalog := Catalog.ofCourses relisted
  (["MATH 200", "MATH 100", "ELEC", "MATH 100", "MATH 200", "MATH 101"].filterMap
    catalog.get?).zipIdx.map fun (course, i) =>
      { id := i + 1, term := 1, course, isElective := i = 2 ∨ i = 4
        electiveKind := some .search }

/-- Both planned courses that show `MATH 100` come before both that show `MATH 200`, but neither
comes before the course that was listed again or the open slot. -/
theorem ofCourses_exact_twice :
    let catalog := Catalog.ofCourses relisted
    let plan : Plan := { Plan.empty "plan" "Plan" 4 with courses := twice, nextId := 7 }
    Exact twice (ofCourses catalog twice) ∧
      (ofCourses catalog twice).edges = [(1, 0), (3, 0), (5, 0), (1, 4), (3, 4), (5, 4)] ∧
      Answers twice 4 (plan.dependents catalog 4) ∧ plan.dependents catalog 4 = .ok [1, 5] := by
  intro catalog plan
  have hascii : ∀ c ∈ relisted, Code.IsAscii c.code.toList := by decide
  have hcourses : ∀ p ∈ twice, p.course ∈ catalog.courses := by decide +kernel
  obtain ⟨hexact, hrescan, hanswers⟩ := ofCourses_exact relisted hascii twice hcourses
  refine ⟨hexact, ?_, hanswers plan rfl 4, by decide +kernel⟩
  rw [hrescan]
  decide +kernel

end Precedence

end StudyPlan
