import StudyPlan.Proofs.Aiming
import StudyPlan.Proofs.Faults

/-!
# Giving terms without a fault

Both passes of a timetable are done here with strict operations: the year that a course is
meant for is kept within bounds, the years before it are counted from there, and what comes
before what is looked up by position.  None of this has a fault, and so the strict passes
give what the passes give (`schedule_eq`, `enforce_eq`).

* A timetable has a year, whatever it was made of, so its years are bounds in order, and the
  year that a course is meant for is within them (`Timetable.Aims.bounds`).
* A pair of a precedence joins two positions of the list: codes are found only where they are
  shown (`mem_positions`), and the order goes through these positions (`order_perm`).
* The terms are as many as the courses from the start, and the second pass keeps their number
  (`length_settleNext`).
-/

namespace StudyPlan

namespace Strict

open Chance (Source)
open Timetable (Placing Settling)

variable {t : Timetable} {courses : List PlannedCourse}

/-! ## The first pass -/

/-- A year kept within the timetable. -/
def clampYear (t : Timetable) (year : Nat) : Except Fault Nat := clamp year 1 t.numYears

/-- The year that a planned course is meant for. -/
def targetYear (t : Timetable) (p : PlannedCourse) (r : Option Requirement) (s : Source) :
    Except Fault (Nat × Source) :=
  match r with
  | some r =>
    if r.isFlexible then do
      let (v, s) ← below32 s 3
      return (← clampYear t (2 + v), s)
    else if 0 < r.year then do return (← clampYear t r.year.toNat, s)
    else do return (← clampYear t (p.course.level?.getD 1), s)
  | none => do return (← clampYear t (p.course.level?.getD 1), s)

/-- The preferred winter term of a year. -/
def baseTerm (year : Nat) (c : Course) : Except Fault Nat := do
  let before := (← sub year 1) * termsPerYear
  if c.offerings.winter1 then return before + 1
  else if c.offerings.winter2 then return before + 2
  else return before + 1

/-- The first pass after one more course. -/
def placeNext (t : Timetable) (requirements : List Requirement) (w : Placing)
    (p : PlannedCourse) : Except Fault Placing := do
  let (year, source) ← targetYear t p (Timetable.requirementOf requirements p) w.source
  let spot := t.place w.loads p.course (← baseTerm year p.course)
  return {
    terms := w.terms ++ [spot.term]
    loads := w.loads.add spot.term
    clamped := if spot.overflows then w.clamped ++ [p.id] else w.clamped
    source }

/-- The first pass. -/
def placeAll (t : Timetable) (requirements : List Requirement) (courses : List PlannedCourse)
    (source : Source) : Except Fault Placing :=
  courses.foldlM (placeNext t requirements) ⟨[], {}, [], source⟩

theorem clampYear_eq (t : Timetable) (year : Nat) : clampYear t year = .ok (t.clampYear year) :=
  clamp_eq_ok_iff.2 ⟨Nat.le_max_right _ _, rfl⟩

theorem targetYear_eq (t : Timetable) (p : PlannedCourse) (r : Option Requirement) (s : Source) :
    targetYear t p r s = .ok (t.targetYear p r s) := by
  cases r with
  | none => rw [targetYear, clampYear_eq]; rfl
  | some r =>
    have hdrawn : below32 s 3 = .ok (s.below32 3) := below32_eq_ok_iff.2 ⟨by decide, rfl⟩
    unfold targetYear Timetable.targetYear
    simp only [clampYear_eq, hdrawn, ok_bind]
    split
    · rfl
    · split
      · rfl
      · rfl

theorem baseTerm_eq {year : Nat} (h : 1 ≤ year) (c : Course) :
    baseTerm year c = .ok (Timetable.baseTerm year c) := by
  rw [baseTerm, sub_eq_ok_iff.2 ⟨h, rfl⟩, ok_bind, Timetable.baseTerm]
  split
  · rfl
  · split
    · rfl
    · rfl

example (c : Course) : baseTerm 0 c = .error .belowZero := rfl

theorem placeNext_eq (t : Timetable) (requirements : List Requirement) (w : Placing)
    (p : PlannedCourse) : placeNext t requirements w p = .ok (t.placeNext requirements w p) := by
  have hone := (t.targetYear_aims requirements p w.source).bounds.1
  rw [placeNext, Timetable.placeNext, targetYear_eq, ok_bind]
  cases haimed : t.targetYear p (Timetable.requirementOf requirements p) w.source with
  | mk year source =>
    rw [haimed] at hone
    simp only [baseTerm_eq hone, ok_bind]
    rfl

theorem placeAll_eq (t : Timetable) (requirements : List Requirement)
    (courses : List PlannedCourse) (source : Source) :
    placeAll t requirements courses source = .ok (t.placeAll requirements courses source) :=
  foldlM_eq_ok_of_forall (fun w p _ => placeNext_eq t requirements w p) _

/-! ## Precedence -/

/-- The pairs with the one of a prerequisite and a dependent, both looked up among so many
positions. -/
def addSource (size dependent : Nat) (edges : List (Nat × Nat)) (i : Nat) :
    Except Fault (List (Nat × Nat)) :=
  if i = dependent then return edges
  else do
    let edge := (← index size i, ← index size dependent)
    return if edges.contains edge then edges else edges ++ [edge]

/-- The pairs with those that one planned course is the dependent of. -/
def addDependent (size : Nat) (codesOf : PlannedCourse → CodeSet) (found : CodeMap (List Nat))
    (edges : List (Nat × Nat)) (dependent : PlannedCourse × Nat) :
    Except Fault (List (Nat × Nat)) :=
  if Precedence.isFree dependent.1 then return edges
  else
    (codesOf dependent.1).foldlM
      (fun edges code => (found.items code).foldlM (addSource size dependent.2) edges) edges

/-- The precedence among planned courses. -/
def ofCourses (catalog : Catalog) (courses : List PlannedCourse) : Except Fault Precedence := do
  let edges ← courses.zipIdx.foldlM
    (addDependent courses.length (Precedence.codesFor catalog) (Precedence.positions courses)) []
  return ⟨courses.length, edges⟩

/-- The prerequisites of a position, ascending. -/
def prerequisitesOf (g : Precedence) (i : Nat) : Except Fault (List Nat) :=
  (g.prerequisitesOf i).mapM (index g.size)

/-- The positions in their order. -/
def order (g : Precedence) : Except Fault (List Nat) := g.order.mapM (index g.size)

theorem index_eq {size i : Nat} (h : i < size) : index size i = .ok i :=
  index_eq_ok_iff.2 ⟨h, rfl⟩

theorem addSource_eq {size dependent i : Nat} (hi : i < size) (hd : dependent < size)
    (edges : List (Nat × Nat)) :
    addSource size dependent edges i = .ok
      (if i = dependent ∨ edges.contains (i, dependent) then edges
      else edges ++ [(i, dependent)]) := by
  unfold addSource
  by_cases hself : i = dependent
  · rw [if_pos hself, if_pos (Or.inl hself)]
    rfl
  · rw [if_neg hself, index_eq hi, index_eq hd]
    simp only [ok_bind, hself, false_or]
    rfl

theorem addDependent_eq {dependent : PlannedCourse × Nat} (h : dependent ∈ courses.zipIdx)
    (codesOf : PlannedCourse → CodeSet) (edges : List (Nat × Nat)) :
    addDependent courses.length codesOf (Precedence.positions courses) edges dependent = .ok
      (Precedence.addDependent codesOf (Precedence.positions courses) edges dependent) := by
  unfold addDependent Precedence.addDependent
  split
  · rfl
  · refine foldlM_eq_ok_of_forall (fun edges code _ => ?_) edges
    refine foldlM_eq_ok_of_forall (fun edges i hi => ?_) edges
    obtain ⟨p, hp, -⟩ := Precedence.mem_positions.1 hi
    exact addSource_eq (List.getElem?_eq_some_iff.1 hp).1 (List.mem_zipIdx' h).1 edges

theorem ofCourses_eq (catalog : Catalog) (courses : List PlannedCourse) :
    ofCourses catalog courses = .ok (Precedence.ofCourses catalog courses) := by
  rw [ofCourses, foldlM_eq_ok_of_forall fun edges _ h => addDependent_eq h _ edges]
  rfl

theorem prerequisitesOf_eq {g : Precedence} (hb : g.Bounded) (i : Nat) :
    prerequisitesOf g i = .ok (g.prerequisitesOf i) := by
  have hall : ∀ j ∈ g.prerequisitesOf i, index g.size j = .ok j := fun j hj =>
    index_eq (hb (Precedence.mem_prerequisitesOf.1 hj)).1
  rw [prerequisitesOf, mapM_eq_ok (g := id) hall, List.map_id]

theorem order_eq {g : Precedence} (hb : g.Bounded) : order g = .ok g.order := by
  have hall : ∀ j ∈ g.order, index g.size j = .ok j := fun j hj =>
    index_eq (List.mem_range.1 ((Precedence.order_perm hb).mem_iff.1 hj))
  rw [order, mapM_eq_ok (g := id) hall, List.map_id]

/-! ## The second pass -/

/-- The second pass after one more position. -/
def settleNext (t : Timetable) (g : Precedence) (courses : List PlannedCourse) (w : Settling)
    (i : Nat) : Except Fault Settling := do
  let before ← (← prerequisitesOf g i).mapM (item w.terms)
  match before.max? with
  | none => return w
  | some latest =>
    let old ← item w.terms i
    if latest < old then return w
    else return t.moveAfter w i (← item courses i) old latest

/-- The second pass over terms that are given, with their loads. -/
def settle (t : Timetable) (catalog : Catalog) (courses : List PlannedCourse) (terms : List Nat)
    (loads : Loads) : Except Fault Settling := do
  let g ← ofCourses catalog courses
  (← order g).foldlM (settleNext t g courses) ⟨terms, loads, {}⟩

theorem mapM_item {terms places : List Nat} (h : ∀ i ∈ places, i < terms.length) :
    places.mapM (item terms) = .ok (places.filterMap (terms[·]?)) := by
  have hitem : ∀ i ∈ places, item terms i = .ok (terms.getD i 0) := fun i hi =>
    item_eq_getD (h i hi) 0
  have hfound : places.filterMap (terms[·]?) = places.filterMap (some ∘ (terms.getD · 0)) :=
    List.filterMap_congr fun i hi => item_eq_ok_iff.1 (hitem i hi)
  rw [mapM_eq_ok hitem, hfound, List.filterMap_eq_map]

theorem settleNext_eq {g : Precedence} (hb : g.Bounded) (hsize : g.size = courses.length)
    {w : Settling} (hlen : w.terms.length = courses.length) {i : Nat} (hi : i < courses.length) :
    settleNext t g courses w i = .ok (t.settleNext g courses w i) := by
  -- Prerequisites are positions of the list, and so there are terms for them.
  have hbefore : ∀ j ∈ g.prerequisitesOf i, j < w.terms.length := fun j hj => by
    rw [hlen, ← hsize]
    exact (hb (Precedence.mem_prerequisitesOf.1 hj)).1
  obtain ⟨old, hold⟩ : ∃ old, w.terms[i]? = some old :=
    ⟨_, List.getElem?_eq_getElem (hlen ▸ hi)⟩
  obtain ⟨p, hp⟩ : ∃ p, courses[i]? = some p := ⟨_, List.getElem?_eq_getElem hi⟩
  rw [settleNext, prerequisitesOf_eq hb, ok_bind, mapM_item hbefore, ok_bind,
    item_eq_ok_iff.2 hold, item_eq_ok_iff.2 hp]
  unfold Timetable.settleNext
  cases hlatest : ((g.prerequisitesOf i).filterMap (w.terms[·]?)).max? with
  | none =>
    simp only [Timetable.latestBefore, hlatest]
    rfl
  | some latest =>
    simp only [Timetable.latestBefore, hlatest, hold, hp, ok_bind]
    split
    · rfl
    · rfl

theorem settle_eq (t : Timetable) (catalog : Catalog) {courses : List PlannedCourse}
    {terms : List Nat} (hlen : terms.length = courses.length) (loads : Loads) :
    settle t catalog courses terms loads = .ok (t.settle catalog courses terms loads) := by
  have hb := Precedence.ofCourses_bounded catalog courses
  rw [settle, ofCourses_eq, ok_bind, order_eq hb, ok_bind]
  refine foldlM_eq_ok (P := fun w : Settling => w.terms.length = courses.length) hlen
    (fun w hw i hi => ?_) fun w hw i _ => (Timetable.length_settleNext w i).trans hw
  have hplace : i < courses.length :=
    List.mem_range.1 ((Precedence.order_perm hb).mem_iff.1 hi)
  exact settleNext_eq hb rfl hw hplace

/-! ## Both passes -/

/-- The courses with every dependent moved after its prerequisites. -/
def enforce (t : Timetable) (catalog : Catalog) (courses : List PlannedCourse) :
    Except Fault (List PlannedCourse × ScheduleReport) := do
  let terms := courses.map (·.term)
  let w ← settle t catalog courses terms (Loads.ofTerms terms)
  return (Timetable.withTerms courses w.terms, w.report)

/-- The courses with new terms. -/
def schedule (t : Timetable) (catalog : Catalog) (requirements : List Requirement)
    (courses : List PlannedCourse) (source : Source) :
    Except Fault (List PlannedCourse × ScheduleReport × Source) := do
  let w ← placeAll t requirements courses source
  let s ← settle t catalog courses w.terms w.loads
  return (Timetable.withTerms courses s.terms,
    { clamped := Timetable.mergeIds w.clamped s.report.clamped, moved := s.report.moved },
    w.source)

theorem enforce_eq (t : Timetable) (catalog : Catalog) (courses : List PlannedCourse) :
    enforce t catalog courses = .ok (t.enforce catalog courses) := by
  rw [enforce, settle_eq t catalog (List.length_map _)]
  rfl

theorem schedule_eq (t : Timetable) (catalog : Catalog) (requirements : List Requirement)
    (courses : List PlannedCourse) (source : Source) :
    schedule t catalog requirements courses source
      = .ok (t.schedule catalog requirements courses source) := by
  rw [schedule, placeAll_eq, ok_bind, settle_eq t catalog (Timetable.length_placeAll ..)]
  rfl

end Strict

end StudyPlan
