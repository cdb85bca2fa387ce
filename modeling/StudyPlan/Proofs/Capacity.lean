import StudyPlan.Proofs.Settling

/-!
# No term is overfull

`Fits` says that the loads are true counts, that every course is in a term of the
timetable, and that no term before the last holds more courses than a given number
for it.  Placing a course keeps this, as there is room in any place before the last
term (`Fits.place`).  So does moving a course, which leaves its old term before
its place is looked for (`Fits.move`).  Hence both passes keep it, with the room
of the timetable as the number.

`Wintry` is about the kind of term: every course that is not reported is in a
winter term.  A place that is not an overflow is one, and overflows are reported.

The last term of a timetable of whole years is a summer term, so that only
reported courses are in it.
-/

namespace StudyPlan

namespace Timetable

variable {t : Timetable} {most : Nat → Nat} {terms : List Nat} {loads : Loads}
  {earliest i old : Nat} {spot : Spot}

/-! ## Loads and terms -/

/-- The loads are those of the terms, which are within the timetable and not overfull. -/
structure Fits (t : Timetable) (most : Nat → Nat) (terms : List Nat) (loads : Loads) : Prop where
  counts : loads.Counts terms
  within : ∀ s ∈ terms, 1 ≤ s ∧ s ≤ t.numTerms
  room : ∀ s < t.numTerms, terms.count s ≤ most s

theorem fits_empty : t.Fits most [] {} where
  counts := Loads.counts_empty
  within _ h := nomatch h
  room _ _ := Nat.zero_le _

theorem Fits.place (h : t.Fits most terms loads) (ht : 1 ≤ t.numTerms)
    (hmost : ∀ s, t.capacity ≤ most s) (hspot : t.Placed loads earliest spot) :
    t.Fits most (terms ++ [spot.term]) (loads.add spot.term) where
  counts := h.counts.add spot.term
  within := by
    intro s hs
    cases List.mem_append.1 hs with
    | inl hold => exact h.within s hold
    | inr hnew => exact List.mem_singleton.1 hnew ▸ ⟨hspot.term_pos ht, hspot.term_le⟩
  room := by
    intro s hs
    rw [List.count_append]
    by_cases hnew : spot.term = s
    · subst hnew
      have hlt : terms.count spot.term < t.capacity := h.counts spot.term ▸ hspot.room hs
      rw [List.count_singleton_self]
      exact Nat.le_trans hlt (hmost _)
    · rw [List.count_singleton, if_neg (by simpa using hnew)]
      exact h.room s hs

theorem Fits.move (h : t.Fits most terms loads) (ht : 1 ≤ t.numTerms)
    (hmost : ∀ s, t.capacity ≤ most s) (hold : terms[i]? = some old)
    (hspot : t.Placed (loads.remove old) earliest spot) :
    t.Fits most (terms.set i spot.term) ((loads.remove old).add spot.term) where
  counts := h.counts.move hold spot.term
  within := by
    intro s hs
    cases List.mem_or_eq_of_mem_set hs with
    | inl hmem => exact h.within s hmem
    | inr hnew => exact hnew ▸ ⟨hspot.term_pos ht, hspot.term_le⟩
  room := by
    intro s hs
    -- The load of a term after the move is its count, and without the new place it is
    -- what the search has seen.
    rw [← h.counts.move hold spot.term s, Loads.get_add]
    by_cases hnew : s = spot.term
    · subst hnew
      rw [if_pos rfl]
      exact Nat.le_trans (hspot.room hs) (hmost _)
    · rw [if_neg hnew, Loads.get_remove, h.counts s]
      have hroom := h.room s hs
      split
      · omega
      · exact hroom

/-! ## Winter terms -/

variable {courses : List PlannedCourse} {clamped : List Nat}

/-- Every course that is not reported is in a winter term. -/
def Wintry (courses : List PlannedCourse) (terms clamped : List Nat) : Prop :=
  ∀ (i : Nat) (p : PlannedCourse) (s : Nat), courses[i]? = some p → terms[i]? = some s →
    Term.isStart s = true ∨ p.id ∈ clamped

theorem Wintry.mono {more : List Nat} (h : Wintry courses terms clamped)
    (hsub : ∀ id ∈ clamped, id ∈ more) : Wintry courses terms more :=
  fun i p s hp hs => (h i p s hp hs).imp_right (hsub p.id)

/-- What is reported stays reported, and an overflow is. -/
theorem mem_clampIf {p : PlannedCourse} :
    (∀ id ∈ clamped, id ∈ if spot.overflows then clamped ++ [p.id] else clamped) ∧
      (spot.overflows = true → p.id ∈ if spot.overflows then clamped ++ [p.id] else clamped) :=
  ⟨fun _ h => mem_clampIf_iff.2 (Or.inl h), fun h => mem_clampIf_iff.2 (Or.inr ⟨h, rfl⟩)⟩

theorem append_clampIf (more : List Nat) (id : Nat) :
    (clamped ++ if spot.overflows then more ++ [id] else more)
      = if spot.overflows then (clamped ++ more) ++ [id] else clamped ++ more := by
  cases spot.overflows with
  | true => exact (List.append_assoc ..).symm
  | false => rfl

theorem Wintry.place {p : PlannedCourse} (h : Wintry courses terms clamped)
    (hlen : terms.length = courses.length) (hspot : t.Placed loads earliest spot) :
    Wintry (courses ++ [p]) (terms ++ [spot.term])
      (if spot.overflows then clamped ++ [p.id] else clamped) := by
  intro i q s hq hs
  by_cases hi : i < courses.length
  · rw [List.getElem?_append_left hi] at hq
    rw [List.getElem?_append_left (hlen ▸ hi)] at hs
    exact h.mono mem_clampIf.1 i q s hq hs
  · rw [List.getElem?_append_right (Nat.le_of_not_lt hi)] at hq
    rw [List.getElem?_append_right (hlen ▸ Nat.le_of_not_lt hi), hlen] at hs
    obtain rfl := List.mem_singleton.1 (List.mem_of_getElem? hq)
    obtain rfl := List.mem_singleton.1 (List.mem_of_getElem? hs)
    exact hspot.isStart.imp_right mem_clampIf.2

theorem Wintry.move {p : PlannedCourse} (h : Wintry courses terms clamped)
    (hp : courses[i]? = some p) (hspot : t.Placed loads earliest spot) :
    Wintry courses (terms.set i spot.term)
      (if spot.overflows then clamped ++ [p.id] else clamped) := by
  intro k q s hq hs
  by_cases hik : i = k
  · subst hik
    obtain rfl : p = q := Option.some.inj (hp.symm.trans hq)
    have hlt : i < terms.length := by
      simpa using (List.getElem?_eq_some_iff.1 hs).1
    rw [List.getElem?_set_self hlt, Option.some.injEq] at hs
    exact hs ▸ hspot.isStart.imp_right mem_clampIf.2
  · rw [List.getElem?_set_ne hik] at hs
    exact h.mono mem_clampIf.1 k q s hq hs

/-! ## Both passes -/

variable {g : Precedence} {catalog : Catalog}

theorem fits_placeAll (requirements : List Requirement) (courses : List PlannedCourse)
    (source : Chance.Source) (ht : 1 ≤ t.numTerms) :
    t.Fits (fun _ => t.capacity) (t.placeAll requirements courses source).terms
      (t.placeAll requirements courses source).loads :=
  placeAll_induct (P := fun _ w => t.Fits (fun _ => t.capacity) w.terms w.loads) fits_empty
    fun _ _ _ _ _ _ h hspot => h.place ht (fun _ => Nat.le_refl _) hspot

theorem wintry_placeAll (t : Timetable) (requirements : List Requirement)
    (courses : List PlannedCourse) (source : Chance.Source) :
    Wintry courses (t.placeAll requirements courses source).terms
      (t.placeAll requirements courses source).clamped := by
  have h : (t.placeAll requirements courses source).terms.length = courses.length ∧
      Wintry courses (t.placeAll requirements courses source).terms
        (t.placeAll requirements courses source).clamped :=
    placeAll_induct
      (P := fun before w => w.terms.length = before.length ∧ Wintry before w.terms w.clamped)
      ⟨rfl, fun _ _ _ hp _ => nomatch hp⟩
      fun before p w earliest spot source ⟨hlen, h⟩ hspot =>
        ⟨by simp [Placing.place, hlen], h.place hlen hspot⟩
  exact h.2

theorem Fits.settleNext {w : Settling} {i : Nat} (h : t.Fits most w.terms w.loads)
    (ht : 1 ≤ t.numTerms) (hmost : ∀ s, t.capacity ≤ most s) :
    t.Fits most (t.settleNext g courses w i).terms (t.settleNext g courses w i).loads := by
  obtain ⟨heq, -⟩ | ⟨p, old, latest, -, hold, -, -, heq⟩ := settleNext_cases t g courses w i
  · rwa [heq]
  · rw [heq, moveAfter]
    exact h.move ht hmost hold (placeAfter_placed t _ p.course latest)

/-- The second pass keeps the loads true and the terms within their bounds. -/
theorem Fits.settle (h : t.Fits most terms loads) (ht : 1 ≤ t.numTerms)
    (hmost : ∀ s, t.capacity ≤ most s) (catalog : Catalog) (courses : List PlannedCourse) :
    t.Fits most (t.settle catalog courses terms loads).terms
      (t.settle catalog courses terms loads).loads :=
  List.foldlRecOn _ _ (motive := fun w : Settling => t.Fits most w.terms w.loads) h
    fun _ h _ _ => h.settleNext ht hmost

theorem Wintry.settleNext {w : Settling} {i : Nat}
    (h : Wintry courses w.terms (clamped ++ w.report.clamped)) :
    Wintry courses (t.settleNext g courses w i).terms
      (clamped ++ (t.settleNext g courses w i).report.clamped) := by
  obtain ⟨heq, -⟩ | ⟨p, old, latest, hp, -, -, -, heq⟩ := settleNext_cases t g courses w i
  · rwa [heq]
  · rw [heq, moveAfter]
    have hspot := placeAfter_placed t (w.loads.remove old) p.course latest
    have hmove := h.move hp hspot
    rwa [← append_clampIf] at hmove

theorem Wintry.settle (h : Wintry courses terms clamped) (t : Timetable) (catalog : Catalog)
    (loads : Loads) :
    Wintry courses (t.settle catalog courses terms loads).terms
      (clamped ++ (t.settle catalog courses terms loads).report.clamped) :=
  List.foldlRecOn _ _
    (motive := fun w : Settling => Wintry courses w.terms (clamped ++ w.report.clamped))
    (h.mono fun _ hid => List.mem_append_left _ hid) fun _ h _ _ => h.settleNext

/-! ## The courses in their terms -/

/-- Nothing about the courses is changed but their terms. -/
def SameButTerms (courses out : List PlannedCourse) : Prop :=
  List.Forall₂ (fun p q => q = { p with term := q.term }) courses out

theorem sameButTerms_withTerms :
    ∀ {courses : List PlannedCourse} {terms : List Nat}, terms.length = courses.length →
      SameButTerms courses (withTerms courses terms)
  | [], [], _ => .nil
  | _ :: _, _ :: _, h => .cons rfl (sameButTerms_withTerms (Nat.succ.inj h))

theorem map_term_withTerms :
    ∀ {courses : List PlannedCourse} {terms : List Nat}, terms.length = courses.length →
      (withTerms courses terms).map (·.term) = terms
  | [], [], _ => rfl
  | _ :: _, s :: _, h => congrArg (s :: ·) (map_term_withTerms (Nat.succ.inj h))

theorem Wintry.isStart {p : PlannedCourse} (h : Wintry courses terms clamped)
    (hp : p ∈ withTerms courses terms) : Term.isStart p.term = true ∨ p.id ∈ clamped := by
  obtain ⟨i, hi⟩ := List.mem_iff_getElem?.1 hp
  obtain ⟨q, s, hq, hs, rfl⟩ := List.getElem?_zipWith_eq_some.1 hi
  exact h i q s hq hs

/-- Every course of a schedule that is not reported is in a winter term. -/
theorem isStart_or_clamped (t : Timetable) (catalog : Catalog) (requirements : List Requirement)
    (courses : List PlannedCourse) (source : Chance.Source) {p : PlannedCourse}
    (hp : p ∈ (t.schedule catalog requirements courses source).1) :
    Term.isStart p.term = true ∨
      p.id ∈ (t.schedule catalog requirements courses source).2.1.clamped := by
  have hwintry := (wintry_placeAll t requirements courses source).settle t catalog
    (t.placeAll requirements courses source).loads
  exact (hwintry.isStart hp).imp_right fun hid => mem_mergeIds.2 (List.mem_append.1 hid)

/-- The last term of whole years is a summer term. -/
theorem isStart_numTerms (hpos : 0 < t.numTerms) (hyears : t.numTerms % termsPerYear = 0) :
    Term.isStart t.numTerms = false := by
  unfold termsPerYear at hyears
  have hlast : ¬ (t.numTerms - 1) % 4 < 2 := by omega
  simp [Term.isStart, termsPerYear, hlast]

/-- What a schedule of courses is to be. -/
structure Feasible (t : Timetable) (courses out : List PlannedCourse) (clamped : List Nat) :
    Prop where
  /-- Every course is in a term of the timetable. -/
  within : ∀ p ∈ out, 1 ≤ p.term ∧ p.term ≤ t.numTerms
  /-- No term before the last is overfull. -/
  room : ∀ s < t.numTerms, out.countP (·.term == s) ≤ t.capacity
  /-- Courses start in winter, but for those that are reported. -/
  winter : ∀ p ∈ out, p.id ∉ clamped → Term.isStart p.term = true
  /-- All courses in the last term are reported. -/
  last : ∀ p ∈ out, p.term = t.numTerms → p.id ∈ clamped
  /-- Nothing but terms is changed. -/
  kept : SameButTerms courses out

/-- The schedule of any courses in whole years is feasible. -/
theorem schedule_feasible (t : Timetable) (catalog : Catalog) (requirements : List Requirement)
    (courses : List PlannedCourse) (source : Chance.Source) (hpos : 0 < t.numTerms)
    (hyears : t.numTerms % termsPerYear = 0) :
    t.Feasible courses (t.schedule catalog requirements courses source).1
      (t.schedule catalog requirements courses source).2.1.clamped := by
  have hlen := (length_settle t catalog courses _
    (t.placeAll requirements courses source).loads).trans
    (length_placeAll t requirements courses source)
  have hfits := (fits_placeAll requirements courses source hpos).settle hpos
    (fun _ => Nat.le_refl _) catalog courses
  have hterms := map_term_withTerms hlen
  constructor
  · intro p hp
    exact hfits.within p.term (hterms ▸ List.mem_map_of_mem hp)
  · intro s hs
    have hroom := hfits.room s hs
    rw [← hterms, List.count, List.countP_map] at hroom
    exact hroom
  · intro p hp hid
    exact (isStart_or_clamped t catalog requirements courses source hp).resolve_right hid
  · intro p hp hlast
    refine (isStart_or_clamped t catalog requirements courses source hp).resolve_left fun hw => ?_
    rw [hlast, isStart_numTerms hpos hyears] at hw
    exact Bool.noConfusion hw
  · exact sameButTerms_withTerms hlen

/-- With room for one course in each term, the winter terms of one year are soon
full.  The third course of the chain goes into summer, and so does the fourth. -/
theorem schedule_feasible_chainOfFour :
    ((⟨4, 1⟩ : Timetable).schedule (.ofCourses []) [] chainOfFour (.ofList [])).1.map (·.term)
      = [1, 2, 4, 4] ∧
    (⟨4, 1⟩ : Timetable).Feasible chainOfFour
      ((⟨4, 1⟩ : Timetable).schedule (.ofCourses []) [] chainOfFour (.ofList [])).1
      ((⟨4, 1⟩ : Timetable).schedule (.ofCourses []) [] chainOfFour (.ofList [])).2.1.clamped := by
  refine ⟨by decide, ?_⟩
  exact schedule_feasible ⟨4, 1⟩ (.ofCourses []) [] chainOfFour (.ofList []) (by decide) (by decide)

end Timetable

end StudyPlan
