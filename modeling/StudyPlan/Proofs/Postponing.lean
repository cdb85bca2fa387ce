import StudyPlan.Proofs.Retiming

/-!
# Moving courses only back

The second pass also runs over terms that somebody chose: terms that are too full,
summer terms, dependents in front of their prerequisites, and prerequisites that run
in a circle.  Whatever it meets, it leaves a course where it is or moves it to a
later term.  `Postponed` says what may happen to one course, and it is said between
the course as it was before the pass and as it is after it.

A course is moved when its term is not after the latest of its prerequisites, and
its place is looked for after that term.  So the place is no earlier than the term,
or it is the last term, which no term is after (`postponed_moved`).  The pass moves the
course of one position at a time.  Numbers tell the courses apart, so nothing changes
for the others, except that the reports get longer (`Postponed.mono`).

How full a term gets is bounded by what it was: a term has room for a course that is
moved in, or it is the last one, and otherwise courses only leave.
-/

namespace StudyPlan

namespace Timetable

variable {t : Timetable} {g : Precedence} {courses out : List PlannedCourse}
  {report : ScheduleReport} {w : Settling}

/-! ## One course -/

/-- What the second pass may do to a course: `p` before it and `q` after it. -/
structure Postponed (report : ScheduleReport) (p q : PlannedCourse) : Prop where
  kept : q = { p with term := q.term }
  le : p.term ≤ q.term
  stays : p.id ∉ report.moved → q.term = p.term
  winter : p.id ∈ report.moved → p.id ∉ report.clamped → Term.isStart q.term = true

theorem Postponed.refl {p : PlannedCourse} (h : p.id ∉ report.moved) : Postponed report p p where
  kept := rfl
  le := Nat.le_refl _
  stays _ := rfl
  winter hmoved := absurd hmoved h

/-- What is reported of other courses makes no difference to a course. -/
theorem Postponed.mono {more : ScheduleReport} {p q : PlannedCourse} (h : Postponed report p q)
    (hmoved : p.id ∈ more.moved ↔ p.id ∈ report.moved)
    (hclamped : p.id ∈ report.clamped → p.id ∈ more.clamped) : Postponed more p q where
  kept := h.kept
  le := h.le
  stays hstays := h.stays fun hp => hstays (hmoved.2 hp)
  winter hp hnot := h.winter (hmoved.1 hp) fun hc => hnot (hclamped hc)

/-- A course that is moved after a term that it was not after. -/
theorem postponed_moved {p : PlannedCourse} {loads : Loads} {old latest : Nat} {spot : Spot}
    (hspot : t.Placed loads (latest + 1) spot) (hle : p.term ≤ t.numTerms) (hold : p.term ≤ old)
    (hlatest : old ≤ latest) (hmoved : p.id ∈ report.moved)
    (hclamped : spot.overflows = true → p.id ∈ report.clamped) :
    Postponed report p { p with term := spot.term } where
  kept := rfl
  le := by
    show p.term ≤ spot.term
    rcases hspot.earliest_le with hafter | ⟨hlast, -⟩
    · omega
    · omega
  stays hnot := absurd hmoved hnot
  winter _ hnot := hspot.isStart.resolve_right fun hover => hnot (hclamped hover)

/-! ## The whole pass -/

/-- The courses are postponed by the terms that they have so far. -/
def Postpones (courses : List PlannedCourse) (w : Settling) : Prop :=
  ∀ (i : Nat) (p : PlannedCourse) (s : Nat), courses[i]? = some p → w.terms[i]? = some s →
    Postponed w.report p { p with term := s }

theorem postpones_start (courses : List PlannedCourse) (loads : Loads) :
    Postpones courses ⟨courses.map (·.term), loads, {}⟩ := by
  intro i p s hp hs
  rw [List.getElem?_map, hp] at hs
  cases hs
  exact .refl List.not_mem_nil

theorem eq_of_ids (hids : (courses.map (·.id)).Nodup) {i k : Nat} {p q : PlannedCourse}
    (hp : courses[i]? = some p) (hq : courses[k]? = some q) (hid : p.id = q.id) : i = k := by
  have hi : i < (courses.map (·.id)).length := by
    rw [List.length_map]
    exact (List.getElem?_eq_some_iff.1 hp).1
  refine (List.getElem?_inj hi hids).1 ?_
  rw [List.getElem?_map, List.getElem?_map, hp, hq, Option.map_some, Option.map_some, hid]

theorem Postpones.settleNext (h : Postpones courses w) (hids : (courses.map (·.id)).Nodup)
    (hle : ∀ p ∈ courses, p.term ≤ t.numTerms) (i : Nat) :
    Postpones courses (t.settleNext g courses w i) := by
  rcases settleNext_cases t g courses w i with
    ⟨heq, -⟩ | ⟨p, old, latest, hp, hold, -, hlatest, heq⟩
  · rwa [heq]
  · have hspot := placeAfter_placed t (w.loads.remove old) p.course latest
    rw [heq]
    unfold moveAfter
    intro k q s hq hs
    by_cases hik : i = k
    · subst hik
      obtain rfl : p = q := Option.some.inj (hp.symm.trans hq)
      have hlt : i < w.terms.length := (List.getElem?_eq_some_iff.1 hold).1
      rw [List.getElem?_set_self hlt, Option.some.injEq] at hs
      subst hs
      exact postponed_moved hspot (hle p (List.mem_of_getElem? hp)) (h i p old hp hold).le hlatest
        (List.mem_append_right _ (List.mem_singleton.2 rfl)) mem_clampIf.2
    · have hne : q.id ≠ p.id := fun hid => hik (eq_of_ids hids hp hq hid.symm)
      rw [List.getElem?_set_ne hik] at hs
      refine (h k q s hq hs).mono ?_ (mem_clampIf.1 q.id)
      simp [hne]

theorem Postpones.forall₂ (h : Postpones courses w) (hlen : w.terms.length = courses.length) :
    List.Forall₂ (Postponed w.report) courses (withTerms courses w.terms) := by
  refine List.forall₂_iff_get.2 ⟨?_, fun i hi hi' => ?_⟩
  · simp [withTerms, hlen]
  · have hs : i < w.terms.length := hlen ▸ hi
    have hpost := h i courses[i] w.terms[i] (List.getElem?_eq_getElem hi)
      (List.getElem?_eq_getElem hs)
    simpa [withTerms] using hpost

theorem countP_term (courses : List PlannedCourse) (s : Nat) :
    courses.countP (·.term == s) = (courses.map (·.term)).count s := by
  rw [List.count, List.countP_map]
  rfl

/-- What the second pass does to courses that have terms. -/
structure Conservative (t : Timetable) (courses out : List PlannedCourse)
    (report : ScheduleReport) : Prop where
  /-- Every course is postponed, or it is left where it is. -/
  postponed : List.Forall₂ (Postponed report) courses out
  /-- No term before the last gets fuller than it was and than there is room. -/
  room : ∀ s < t.numTerms,
    out.countP (·.term == s) ≤ Max.max t.capacity (courses.countP (·.term == s))

theorem enforce_postponed (t : Timetable) (catalog : Catalog)
    (hids : (courses.map (·.id)).Nodup) (hle : ∀ p ∈ courses, p.term ≤ t.numTerms) :
    List.Forall₂ (Postponed (t.enforce catalog courses).2) courses
      (t.enforce catalog courses).1 := by
  refine Postpones.forall₂ ?_ (length_enforce_terms t catalog courses)
  exact List.foldlRecOn _ _ (motive := Postpones courses) (postpones_start courses _)
    fun _ h i _ => h.settleNext hids hle i

/-- The second pass over courses in any terms moves them only back, into winter terms
unless it reports them, and overfills no term. -/
theorem enforce_conservative (t : Timetable) (catalog : Catalog) (courses : List PlannedCourse)
    (hids : (courses.map (·.id)).Nodup)
    (hterms : ∀ p ∈ courses, 1 ≤ p.term ∧ p.term ≤ t.numTerms) :
    t.Conservative courses (t.enforce catalog courses).1 (t.enforce catalog courses).2 := by
  refine ⟨enforce_postponed t catalog hids fun p hp => (hterms p hp).2, fun s hs => ?_⟩
  rw [countP_term, countP_term, enforce,
    map_term_withTerms (length_enforce_terms t catalog courses)]
  exact (fits_enforce (by omega) catalog hterms).room s hs

/-- Two courses in a summer term that ask for each other, and a third one that asks for
the first. -/
def circleInSummer : List PlannedCourse :=
  [{ sampleCourse 1 "MATH 100" "MATH 101" with term := 3 },
    { sampleCourse 2 "MATH 101" "MATH 100" with term := 3 },
    { sampleCourse 3 "MATH 200" "MATH 100" with term := 3 }]

/-- With room for one course in each term, the first two get the winter terms of the
second year.  None is left for the third after that, and it is reported. -/
theorem enforce_conservative_circleInSummer :
    (circleInSummer.map (·.id)).Nodup ∧ (∀ p ∈ circleInSummer, 1 ≤ p.term ∧ p.term ≤ 8) ∧
    ((⟨8, 1⟩ : Timetable).enforce (.ofCourses []) circleInSummer).1.map (·.term) = [5, 6, 8] ∧
    ((⟨8, 1⟩ : Timetable).enforce (.ofCourses []) circleInSummer).2 = ⟨[3], [1, 2, 3]⟩ ∧
    (⟨8, 1⟩ : Timetable).Conservative circleInSummer
      ((⟨8, 1⟩ : Timetable).enforce (.ofCourses []) circleInSummer).1
      ((⟨8, 1⟩ : Timetable).enforce (.ofCourses []) circleInSummer).2 := by
  refine ⟨by decide, by decide, by decide, by decide, ?_⟩
  exact enforce_conservative ⟨8, 1⟩ (.ofCourses []) circleInSummer (by decide) (by decide)

end Timetable

end StudyPlan
