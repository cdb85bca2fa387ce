import StudyPlan.Proofs.Aiming
import StudyPlan.Proofs.Resettling
import StudyPlan.Proofs.Visiting

/-!
# What the reports tell of a course

*Moved courses.*  A course that the second pass moves is in another term afterwards, with one
exception.  If it is in the last term, and a prerequisite is there as well, it has nowhere to
go: it is moved to the term that it had.  Such a course is *cornered*.  The second pass
reports the courses whose terms have changed and the cornered ones (`enforce_moved_iff`).

*Clamped courses.*  In whole years the overflows are in summer and the other places in
winter.  So what one pass reports of a course is right after that pass.  The report of a
schedule joins those of both passes.  A course that overflowed in the first one and was moved
into a winter term by the second is reported all the same.  These courses are the only ones
of which the report is not true (`schedule_clamped_iff`).
-/

namespace StudyPlan

namespace Timetable

variable {t : Timetable} {g : Precedence} {catalog : Catalog} {courses : List PlannedCourse}
  {report : ScheduleReport} {found : List Nat} {p : PlannedCourse} {i old new : Nat}

/-! ## Moved courses -/

/-- A course is reported as moved if its term is another one, or if it was in the last term and
the pass found a prerequisite there. -/
theorem Fate.moved_iff (h : t.Fate g report found p i old new) (hold : old ≤ t.numTerms)
    (hfound : ∀ s ∈ found, s ≤ t.numTerms) :
    p.id ∈ report.moved ↔
      new ≠ old ∨ (old = t.numTerms ∧ ∃ k, g.Edge k i ∧ found[k]? = some t.numTerms) := by
  cases h with
  | stays hafter hmoved _ =>
    refine iff_of_false hmoved ?_
    rintro (hne | ⟨rfl, k, he, hk⟩)
    · exact hne rfl
    · obtain ⟨latest, hlatest, hle⟩ := latestBefore_of_edge he hk
      exact Nat.not_lt.2 hle (hafter latest hlatest)
  | @moves others latest hlatest hle hmoved _ =>
    refine iff_of_true hmoved ?_
    obtain ⟨k, he, hk⟩ := exists_edge_latestBefore hlatest
    have hmost := hfound latest (List.mem_of_getElem? hk)
    rcases (placeAfter_placed t others p.course latest).earliest_le with hafter | ⟨hlast, -⟩
    · exact Or.inl (by omega)
    · rw [hlast]
      by_cases hne : t.numTerms = old
      · obtain rfl : latest = t.numTerms := by omega
        exact Or.inr ⟨hne.symm, k, he, hk⟩
      · exact Or.inl hne

/-- A course in the last term that has a prerequisite there when the second pass comes to it:
in its new term if it is earlier in the order, and otherwise in its old one. -/
structure Cornered (t : Timetable) (g : Precedence) (courses out : List PlannedCourse) (i : Nat)
    (p : PlannedCourse) : Prop where
  last : p.term = t.numTerms
  met : ∃ k q q', g.Edge k i ∧ courses[k]? = some q ∧ out[k]? = some q' ∧
    (if g.order.idxOf k < g.order.idxOf i then q'.term else q.term) = t.numTerms

/-- One course before and after the second pass. -/
theorem mem_enforce_moved_iff (t : Timetable) (catalog : Catalog)
    (hids : (courses.map (·.id)).Nodup) (hterms : ∀ p ∈ courses, p.term ≤ t.numTerms)
    (hp : courses[i]? = some p) :
    ∃ q, (t.enforce catalog courses).1[i]? = some q ∧
      (p.id ∈ (t.enforce catalog courses).2.moved ↔ q.term ≠ p.term ∨
        t.Cornered (.ofCourses catalog courses) courses (t.enforce catalog courses).1 i p) := by
  have hle : ∀ s ∈ courses.map (·.term), s ≤ t.numTerms := by
    intro s hs
    obtain ⟨q, hq, rfl⟩ := List.mem_map.1 hs
    exact hterms q hq
  have hterm {k : Nat} {q : PlannedCourse} (hq : courses[k]? = some q) :
      (courses.map (·.term))[k]? = some q.term := by
    rw [List.getElem?_map, hq, Option.map_some]
  obtain ⟨found, new, hnew, hfate, hfound⟩ :=
    settle_fate t catalog (Loads.ofTerms (courses.map (·.term))) hids hp (hterm hp)
  have hmost : ∀ s ∈ found, s ≤ t.numTerms := by
    intro s hs
    obtain ⟨k, hk⟩ := List.mem_iff_getElem?.1 hs
    rw [hfound k] at hk
    split at hk
    · exact settle_le hle s (List.mem_of_getElem? hk)
    · exact hle s (List.mem_of_getElem? hk)
  refine ⟨_, getElem?_withTerms hp hnew, ?_⟩
  refine (hfate.moved_iff (hle p.term (List.mem_of_getElem? (hterm hp))) hmost).trans
    (or_congr_right ?_)
  constructor
  · rintro ⟨hlast, k, he, hk⟩
    obtain ⟨q, -, hq, -⟩ := Precedence.edge_ofCourses.1 he
    have hlt := (List.getElem?_eq_some_iff.1 hq).1
    rw [← length_enforce_terms t catalog courses] at hlt
    have hs := List.getElem?_eq_getElem hlt
    refine ⟨hlast, k, q, _, he, hq, getElem?_withTerms hq hs, ?_⟩
    rw [hfound k, hs, hterm hq, ← apply_ite some] at hk
    exact Option.some.inj hk
  · rintro ⟨hlast, k, q, q', he, hq, hq', hmet⟩
    refine ⟨hlast, k, he, ?_⟩
    obtain ⟨q₀, s, hq₀, hs, rfl⟩ := List.getElem?_zipWith_eq_some.1 hq'
    rw [hfound k, hs, hterm hq, ← apply_ite some, ← hmet]

/-- The second pass reports as moved exactly the courses that are in other terms afterwards, and
the cornered ones. -/
theorem enforce_moved_iff (t : Timetable) (catalog : Catalog) (courses : List PlannedCourse)
    (hids : (courses.map (·.id)).Nodup)
    (hterms : ∀ p ∈ courses, 1 ≤ p.term ∧ p.term ≤ t.numTerms) (id : Nat) :
    id ∈ (t.enforce catalog courses).2.moved ↔
      ∃ i p q, courses[i]? = some p ∧ (t.enforce catalog courses).1[i]? = some q ∧ p.id = id ∧
        (q.term ≠ p.term ∨
          t.Cornered (.ofCourses catalog courses) courses (t.enforce catalog courses).1 i p) := by
  have hle : ∀ p ∈ courses, p.term ≤ t.numTerms := fun p hp => (hterms p hp).2
  constructor
  · intro hmoved
    obtain ⟨i, p, hp, rfl⟩ := settle_reported (Or.inl hmoved)
    obtain ⟨q, hq, hiff⟩ := mem_enforce_moved_iff t catalog hids hle hp
    exact ⟨i, p, q, hp, hq, rfl, hiff.1 hmoved⟩
  · rintro ⟨i, p, q, hp, hq, rfl, hwhy⟩
    obtain ⟨q', hq', hiff⟩ := mem_enforce_moved_iff t catalog hids hle hp
    obtain rfl : q = q' := Option.some.inj (hq.symm.trans hq')
    exact hiff.2 hwhy

/-- A course in the last term, one that asks for it there, and one that has to leave the
first term. -/
def twoInLastTerm : List PlannedCourse :=
  [{ sampleCourse 1 "MATH 100" "" with term := 8 },
    { sampleCourse 2 "MATH 101" "MATH 100" with term := 8 },
    sampleCourse 3 "MATH 102" "", sampleCourse 4 "MATH 200" "MATH 102"]

/-- The second course is reported although it stays where it was. -/
theorem enforce_moved_iff_twoInLastTerm :
    let made := (⟨8, 5⟩ : Timetable).enforce (.ofCourses []) twoInLastTerm
    made.1.map (·.term) = [8, 8, 1, 2] ∧ made.2.moved = [4, 2] ∧
    (2 ∈ made.2.moved ↔ ∃ i p q, twoInLastTerm[i]? = some p ∧ made.1[i]? = some q ∧ p.id = 2 ∧
      (q.term ≠ p.term ∨ (⟨8, 5⟩ : Timetable).Cornered (.ofCourses (.ofCourses []) twoInLastTerm)
        twoInLastTerm made.1 i p)) := by
  intro made
  exact ⟨by decide, by decide,
    enforce_moved_iff ⟨8, 5⟩ (.ofCourses []) twoInLastTerm (by decide) (by decide) 2⟩

/-- Not every course that is reported as moved is in another term. -/
theorem enforce_moved_cornered : ¬ ∀ (t : Timetable) (catalog : Catalog)
    (courses : List PlannedCourse), (courses.map (·.id)).Nodup →
    (∀ p ∈ courses, 1 ≤ p.term ∧ p.term ≤ t.numTerms) →
    ∀ id, id ∈ (t.enforce catalog courses).2.moved ↔
      ∃ (i : Nat) (p q : PlannedCourse), courses[i]? = some p ∧
        (t.enforce catalog courses).1[i]? = some q ∧ p.id = id ∧ q.term ≠ p.term := by
  intro hclaim
  have hids : (twoInLastTerm.map (·.id)).Nodup := by decide
  obtain ⟨i, p, q, hp, hq, hid, hne⟩ :=
    (hclaim ⟨8, 5⟩ (.ofCourses []) twoInLastTerm hids (by decide) 2).1 (by decide)
  have hi : i = 1 := eq_of_ids hids hp (q := twoInLastTerm[1]) rfl hid
  subst hi
  obtain rfl : twoInLastTerm[1] = p := Option.some.inj hp
  have hterms : ((⟨8, 5⟩ : Timetable).enforce (.ofCourses []) twoInLastTerm).1.map (·.term)
      = [8, 8, 1, 2] := by decide
  have hterm := congrArg (·[1]?) hterms
  simp only [List.getElem?_map, hq, Option.map_some] at hterm
  exact hne (Option.some.inj hterm)

/-! ## Clamped courses -/

/-- After the second pass a course that it has moved is reported as clamped exactly if it is in
summer, and one that it has left alone is not reported. -/
theorem Fate.clamped_iff (h : t.Fate g report found p i old new)
    (hlast : Term.isStart t.numTerms = false) :
    (p.id ∉ report.moved ∧ p.id ∉ report.clamped ∧ new = old) ∨
      (p.id ∈ report.moved ∧ (p.id ∈ report.clamped ↔ Term.isStart new = false)) := by
  cases h with
  | stays _ hmoved hclamped => exact Or.inl ⟨hmoved, hclamped, rfl⟩
  | moves _ _ hmoved hclamped =>
    exact Or.inr ⟨hmoved, hclamped.trans (placeAfter_overflows_iff hlast)⟩

/-- After the first pass a course is reported exactly if it is in summer. -/
theorem Chosen.clamped_iff {w : Placing} {earliest : Nat} {loads : Loads}
    (h : t.Chosen courses w p i earliest loads) (hids : (courses.map (·.id)).Nodup)
    (hlast : Term.isStart t.numTerms = false) (hold : w.terms[i]? = some old) :
    p.id ∈ w.clamped ↔ Term.isStart old = false := by
  obtain rfl := Option.some.inj (h.term.symm.trans hold)
  exact (h.reported hids).trans (place_overflows_iff hlast)

/-- The second pass over what the first one has made. -/
def secondPass (t : Timetable) (catalog : Catalog) (requirements : List Requirement)
    (courses : List PlannedCourse) (source : Chance.Source) : Settling :=
  t.settle catalog courses (t.placeAll requirements courses source).terms
    (t.placeAll requirements courses source).loads

theorem course_of_clamped {requirements : List Requirement} {source : Chance.Source} {id : Nat}
    (hid : id ∈ (t.schedule catalog requirements courses source).2.1.clamped) :
    ∃ (i : Nat) (p : PlannedCourse), courses[i]? = some p ∧ p.id = id := by
  rcases mem_mergeIds.1 hid with hfirst | hsecond
  · obtain ⟨p, hp, hpid⟩ :=
      List.mem_map.1 ((placeAll_underway t requirements courses source).clamped_mem id hfirst)
    obtain ⟨i, hi⟩ := List.mem_iff_getElem?.1 hp
    exact ⟨i, p, hi, hpid⟩
  · exact settle_reported (Or.inr hsecond)

/-- A schedule reports the courses in summer, and those that overflowed in the first pass and
were moved into a winter term by the second. -/
theorem schedule_clamped_iff (t : Timetable) (catalog : Catalog) (requirements : List Requirement)
    (courses : List PlannedCourse) (source : Chance.Source) (hpos : 0 < t.numTerms)
    (hyears : t.numTerms % termsPerYear = 0) (hids : (courses.map (·.id)).Nodup) :
    (∀ q ∈ (t.schedule catalog requirements courses source).1, Term.isStart q.term = false →
      q.id ∈ (t.schedule catalog requirements courses source).2.1.clamped) ∧
    ∀ id ∈ (t.schedule catalog requirements courses source).2.1.clamped,
      ∃ q ∈ (t.schedule catalog requirements courses source).1, q.id = id ∧
        (Term.isStart q.term = true ↔
          id ∈ (t.placeAll requirements courses source).clamped ∧
            id ∈ (t.secondPass catalog requirements courses source).report.moved ∧
            id ∉ (t.secondPass catalog requirements courses source).report.clamped) := by
  refine ⟨fun q hq hsummer => ?_, fun id hid => ?_⟩
  · refine (isStart_or_clamped t catalog requirements courses source hq).resolve_left ?_
    exact Bool.eq_false_iff.1 hsummer
  · have hlast := isStart_numTerms hpos hyears
    have hunderway := placeAll_underway t requirements courses source
    have hreported : id ∈ (t.placeAll requirements courses source).clamped ∨
        id ∈ (t.secondPass catalog requirements courses source).report.clamped := mem_mergeIds.1 hid
    obtain ⟨i, p, hp, rfl⟩ := course_of_clamped hid
    obtain ⟨year, loads, -, -, hchosen⟩ := hunderway.chosen i p hp
    obtain ⟨found, new, hnew, hfate, -⟩ := settle_fate t catalog
      (t.placeAll requirements courses source).loads hids hp hchosen.term
    refine ⟨_, List.mem_of_getElem? (getElem?_withTerms hp hnew), rfl, ?_⟩
    show Term.isStart new = true ↔ _
    rw [← Bool.not_eq_false (Term.isStart new)]
    rcases hfate.clamped_iff hlast with ⟨hstays, hnot, rfl⟩ | ⟨hmoved, hiff⟩
    · -- The second pass has left the course where the first one put it, and that is in summer.
      have hsummer := (hchosen.clamped_iff hids hlast hchosen.term).1 (hreported.resolve_right hnot)
      exact iff_of_false (fun hwinter => hwinter hsummer) fun h => hstays h.2.1
    · rw [← hiff]
      exact ⟨fun hnot => ⟨hreported.resolve_right hnot, hmoved, hnot⟩, fun h => h.2.2⟩

/-- Seven courses of the first level.  The fourth asks for the fifth and the last for the third. -/
def sevenOfFirstLevel : List PlannedCourse :=
  [sampleCourse 1 "MATH 100" "", sampleCourse 2 "MATH 101" "", sampleCourse 3 "MATH 102" "",
    sampleCourse 4 "MATH 103" "MATH 104", sampleCourse 5 "MATH 104" "",
    sampleCourse 6 "MATH 105" "", sampleCourse 7 "MATH 106" "MATH 102"]

/-- The catalogue of the seven. -/
def catalogOfSeven : Catalog := .ofCourses (sevenOfFirstLevel.map (·.course))

/-- Two years with room for one course in each term. -/
def twoNarrowYears : Timetable := ⟨8, 1⟩

/-- The first pass leaves no winter term to the last three courses.  The second pass takes the
fourth course out of its winter term, and the last course gets it. -/
theorem schedule_clamped_iff_sevenOfFirstLevel :
    (twoNarrowYears.placeAll [] sevenOfFirstLevel (.ofList [])).terms = [1, 2, 5, 6, 8, 7, 4] ∧
    (twoNarrowYears.placeAll [] sevenOfFirstLevel (.ofList [])).clamped = [5, 6, 7] ∧
    (twoNarrowYears.secondPass catalogOfSeven [] sevenOfFirstLevel (.ofList [])).terms
      = [1, 2, 5, 8, 8, 7, 6] ∧
    (twoNarrowYears.schedule catalogOfSeven [] sevenOfFirstLevel (.ofList [])).2.1
      = ⟨[5, 6, 7, 4], [4, 7]⟩ ∧
    (∀ q ∈ (twoNarrowYears.schedule catalogOfSeven [] sevenOfFirstLevel (.ofList [])).1,
      Term.isStart q.term = false →
        q.id ∈ (twoNarrowYears.schedule catalogOfSeven [] sevenOfFirstLevel
          (.ofList [])).2.1.clamped) ∧
    ∀ id ∈ (twoNarrowYears.schedule catalogOfSeven [] sevenOfFirstLevel (.ofList [])).2.1.clamped,
      ∃ q ∈ (twoNarrowYears.schedule catalogOfSeven [] sevenOfFirstLevel (.ofList [])).1,
        q.id = id ∧ (Term.isStart q.term = true ↔
          id ∈ (twoNarrowYears.placeAll [] sevenOfFirstLevel (.ofList [])).clamped ∧
            id ∈ (twoNarrowYears.secondPass catalogOfSeven [] sevenOfFirstLevel
              (.ofList [])).report.moved ∧
            id ∉ (twoNarrowYears.secondPass catalogOfSeven [] sevenOfFirstLevel
              (.ofList [])).report.clamped) := by
  refine ⟨by decide, by decide, by decide +kernel, by decide +kernel, ?_⟩
  exact schedule_clamped_iff twoNarrowYears catalogOfSeven [] sevenOfFirstLevel (.ofList [])
    (by decide) (by decide) (by decide)

/-- Not every course that a schedule reports is in summer. -/
theorem schedule_clamped_stale : ¬ ∀ (t : Timetable) (catalog : Catalog)
    (requirements : List Requirement) (courses : List PlannedCourse) (source : Chance.Source),
    0 < t.numTerms → t.numTerms % termsPerYear = 0 → (courses.map (·.id)).Nodup →
    ∀ id ∈ (t.schedule catalog requirements courses source).2.1.clamped,
      ∃ q ∈ (t.schedule catalog requirements courses source).1, q.id = id ∧
        Term.isStart q.term = false := by
  intro hclaim
  have hsummer := hclaim twoNarrowYears catalogOfSeven [] sevenOfFirstLevel (.ofList [])
    (by decide) (by decide) (by decide) 7 (by decide +kernel)
  revert hsummer
  decide +kernel

end Timetable

end StudyPlan
