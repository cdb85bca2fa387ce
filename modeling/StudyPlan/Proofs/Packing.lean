import StudyPlan.Proofs.Aiming
import StudyPlan.Proofs.Postponing
import StudyPlan.Proofs.Resettling

/-!
# Every course in the first term that fits

Where no course asks for another, the second pass finds nothing to do, and the first pass
alone makes the schedule.  It places the courses one by one, and each time it knows only the
courses before.  Still, what it decides for a course is right in the end: `EarliestFit` says
of the finished schedule that every better term for the course is full.

A term that a search has passed over had no room then.  Later courses only make it
fuller, and no winter term ever holds more courses than there is room for.  So the term
holds exactly that many in the end (`Crowded.filled`), and the three ways of being fitted in
become the three cases of `EarliestFit` (`Fitted.earliestFit`).
-/

namespace StudyPlan

namespace Timetable

/-- The winter terms from a term on and before another hold as many courses as there is room
for, as far as they suit. -/
def Filled (t : Timetable) (out : List PlannedCourse) (suits : Nat → Bool) (first past : Nat) :
    Prop :=
  ∀ s, first ≤ s → s < past → Term.isStart s = true → suits s = true →
    out.countP (·.term == s) = t.capacity

/-- There is no better term for a course in a schedule, `base` being the term from which one
was looked for. -/
structure EarliestFit (t : Timetable) (out : List PlannedCourse) (clamped : List Nat)
    (base : Nat) (q : PlannedCourse) : Prop where
  /-- The course is in a winter term from there on, unless it is reported. -/
  placed : (Term.isStart q.term = true ∧ base ≤ q.term) ∨ q.id ∈ clamped
  /-- In a winter term that suits the course, all earlier ones that suit it are full. -/
  offered : Term.isStart q.term = true → q.course.fits q.term = true →
    t.Filled out q.course.fits base q.term
  /-- In another winter term, all that suit the course are full, and all earlier ones. -/
  unoffered : Term.isStart q.term = true → q.course.fits q.term = false →
    t.Filled out q.course.fits base (t.numTerms + 1) ∧ t.Filled out anyTerm base q.term
  /-- If the course is reported, all winter terms are full. -/
  clamped : q.id ∈ clamped → t.Filled out anyTerm base (t.numTerms + 1)

variable {t : Timetable} {courses out : List PlannedCourse} {terms clamped : List Nat}

/-- Terms without room are full, where no term before the last is overfull. -/
theorem Crowded.filled {suits : Nat → Bool} {first past : Nat}
    (h : t.Crowded (terms.count ·) suits first past) (hpast : past ≤ t.numTerms + 1)
    (hout : out.map (·.term) = terms) (hlast : Term.isStart t.numTerms = false)
    (hroom : ∀ s < t.numTerms, terms.count s ≤ t.capacity) :
    t.Filled out suits first past := by
  intro s hle hlt hw hs
  have hne : s ≠ t.numTerms := by
    rintro rfl
    rw [hw] at hlast
    cases hlast
  rw [countP_term, hout]
  exact Nat.le_antisymm (hroom s (by omega)) (h s hle hlt hw hs)

theorem Fitted.earliestFit {c : Course} {base : Nat} {spot : Spot} {q : PlannedCourse}
    {loads : Loads} (h : t.Fitted (terms.count ·) c base spot) (hspot : t.Placed loads base spot)
    (hout : out.map (·.term) = terms) (hlast : Term.isStart t.numTerms = false)
    (hroom : ∀ s < t.numTerms, terms.count s ≤ t.capacity) (hcourse : q.course = c)
    (hterm : q.term = spot.term) (hreported : q.id ∈ clamped ↔ spot.overflows = true) :
    t.EarliestFit out clamped base q := by
  subst hcourse
  have hle := hterm ▸ hspot.term_le
  have hplaced : (Term.isStart q.term = true ∧ base ≤ q.term) ∨ q.id ∈ clamped := by
    by_cases hover : spot.overflows = true
    · exact Or.inr (hreported.2 hover)
    · refine Or.inl ⟨hterm ▸ hspot.isStart.resolve_right hover, hterm ▸ ?_⟩
      exact hspot.earliest_le.resolve_right fun hlast => hover hlast.2
  cases h with
  | offered hw hfits hbefore =>
    subst hterm
    refine ⟨hplaced, fun _ _ => ?_, fun _ hnot => ?_, fun hc => ?_⟩
    · exact hbefore.filled (Nat.le_succ_of_le hle) hout hlast hroom
    · rw [hfits] at hnot
      cases hnot
    · cases hreported.1 hc
  | unoffered hw hfits hoffered hbefore =>
    subst hterm
    refine ⟨hplaced, fun _ hyes => ?_, fun _ _ => ⟨?_, ?_⟩, fun hc => ?_⟩
    · rw [hfits] at hyes
      cases hyes
    · exact hoffered.filled (Nat.le_refl _) hout hlast hroom
    · exact hbefore.filled (Nat.le_succ_of_le hle) hout hlast hroom
    · cases hreported.1 hc
  | overflow hw hall =>
    subst hterm
    refine ⟨hplaced, fun hstart => ?_, fun hstart => ?_, fun _ => ?_⟩
    · rw [hw] at hstart
      cases hstart
    · rw [hw] at hstart
      cases hstart
    · exact hall.filled (Nat.le_refl _) hout hlast hroom

/-- The schedule of courses that do not ask for each other puts each of them into the first
term that fits, from the preferred winter term of the year on that it is meant for. -/
theorem schedule_earliestFit (t : Timetable) (catalog : Catalog) (requirements : List Requirement)
    (courses : List PlannedCourse) (source : Chance.Source) (hpos : 0 < t.numTerms)
    (hyears : t.numTerms % termsPerYear = 0) (hids : (courses.map (·.id)).Nodup)
    (hfree : (Precedence.ofCourses catalog courses).edges = []) {i : Nat} {p : PlannedCourse}
    (hp : courses[i]? = some p) :
    ∃ q year, (t.schedule catalog requirements courses source).1[i]? = some q ∧
      (t.targetYears requirements courses source)[i]? = some year ∧
      t.Aims requirements p year ∧
      t.EarliestFit (t.schedule catalog requirements courses source).1
        (t.schedule catalog requirements courses source).2.1.clamped (baseTerm year p.course) q := by
  have hlast := isStart_numTerms hpos hyears
  have hunderway := placeAll_underway t requirements courses source
  have hfits := fits_placeAll (t := t) requirements courses source hpos
  obtain ⟨year, loads, hyear, haims, hchosen⟩ := hunderway.chosen i p hp
  have hidle := settle_eq_self t catalog courses (t.placeAll requirements courses source).terms
    (t.placeAll requirements courses source).loads fun k j _ _ he => by
      rw [Precedence.Edge, hfree] at he
      cases he
  simp only [schedule, hidle, mergeIds, List.foldl_nil]
  refine ⟨_, year, getElem?_withTerms hp hchosen.term, hyear, haims, ?_⟩
  exact ((place_fitted hlast loads p.course _).mono hchosen.lower).earliestFit
    (place_placed p.course) (map_term_withTerms hunderway.terms_length) hlast hfits.room rfl rfl
    (hchosen.reported hids)

/-- Five courses that are offered in the first term of the year only. -/
def firstTermOnly : List PlannedCourse :=
  (List.range 5).map fun i =>
    { id := i + 1, term := 1,
      course := { code := "MATH 100", credits := 3, offerings := { winter1 := true } } }

/-- With room for one course in each term, the first two courses fill the first terms of
both years.  The others get the second ones, as long as there are any. -/
theorem schedule_earliestFit_firstTermOnly :
    let t : Timetable := ⟨8, 1⟩
    let made := t.schedule (.ofCourses []) [] firstTermOnly (.ofList [])
    made.1.map (·.term) = [1, 5, 2, 6, 8] ∧ made.2.1.clamped = [5] ∧
    ∃ q year, made.1[2]? = some q ∧
      (t.targetYears [] firstTermOnly (.ofList []))[2]? = some year ∧
      t.Aims [] firstTermOnly[2] year ∧
      t.EarliestFit made.1 made.2.1.clamped (baseTerm year firstTermOnly[2].course) q := by
  intro t made
  exact ⟨by decide, by decide,
    schedule_earliestFit t (.ofCourses []) [] firstTermOnly (.ofList []) (by decide) (by decide)
      (by decide) (by decide) rfl⟩

end Timetable

end StudyPlan
