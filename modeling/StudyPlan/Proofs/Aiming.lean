import StudyPlan.Proofs.Fitting
import StudyPlan.Proofs.Settling

/-!
# Starting in the year that is aimed at

The first pass looks for a place from the first winter term of a year on.  `Aims` says which
year that may be, without the random source: the year that the requirement of the course
names, one of the years 2 to 4 if the requirement leaves it open, and the level of the
course if there is no requirement or it names the year 0.  Any of them is kept within the
timetable (`Timetable.clampYear`).

While the first pass is under way, the terms only get fuller.  So for each course there are
loads, no higher than those in the end, among which its place was looked for
(`Chosen`, `placeAll_underway`).  What a search says of one course is then a fact about the
whole pass.

A place is not before the term from which it was looked for, unless it is the last term of
all, and every year of the timetable has begun by then.  The second pass moves
courses only back (`settle_later`).  So no course is in a term before its year
(`schedule_from_year`).
-/

namespace StudyPlan

namespace Timetable

variable {t : Timetable} {requirements : List Requirement} {p q : PlannedCourse}
  {r : Requirement} {year : Nat}

/-! ## Years -/

/-- A requirement is the last of those that have the name to which a course refers. -/
def LastNamed (requirements : List Requirement) (p : PlannedCourse) (r : Requirement) : Prop :=
  p.requirementId = some r.id ∧
    ∃ before after, requirements = before ++ r :: after ∧ ∀ other ∈ after, other.id ≠ r.id

theorem requirementOf_eq_some_iff :
    requirementOf requirements p = some r ↔ LastNamed requirements p r := by
  unfold requirementOf LastNamed
  rw [Option.bind_eq_some_iff]
  constructor
  · rintro ⟨id, hid, hfind⟩
    obtain ⟨heq, before, after, hsplit, hbefore⟩ := List.find?_eq_some_iff_append.1 hfind
    obtain rfl : r.id = id := by simpa using heq
    refine ⟨hid, after.reverse, before.reverse, ?_, fun other hother => ?_⟩
    · rw [← List.reverse_reverse requirements, hsplit]
      simp
    · simpa using hbefore other (List.mem_reverse.1 hother)
  · rintro ⟨hid, before, after, rfl, hafter⟩
    refine ⟨r.id, hid, List.find?_eq_some_iff_append.2 ⟨by simp, after.reverse, before.reverse, ?_⟩⟩
    refine ⟨by simp, fun other hother => ?_⟩
    simpa using hafter other (List.mem_reverse.1 hother)

/-- The years that a planned course may be meant for. -/
inductive Aims (t : Timetable) (requirements : List Requirement) (p : PlannedCourse) : Nat → Prop
  /-- The year of its requirement. -/
  | named {r : Requirement} (hr : LastNamed requirements p r) (hyear : 0 < r.year) :
      Aims t requirements p (t.clampYear r.year.toNat)
  /-- One of three years, if the requirement leaves it open. -/
  | left_open {r : Requirement} {year : Nat} (hr : LastNamed requirements p r)
      (hyear : r.year < 0) (htwo : 2 ≤ year) (hfour : year ≤ 4) :
      Aims t requirements p (t.clampYear year)
  /-- The level of the course, or the first year. -/
  | level (hr : ∀ r, LastNamed requirements p r → r.year = 0) :
      Aims t requirements p (t.clampYear (p.course.level?.getD 1))

theorem targetYear_aims (t : Timetable) (requirements : List Requirement) (p : PlannedCourse)
    (source : Chance.Source) :
    t.Aims requirements p (t.targetYear p (requirementOf requirements p) source).1 := by
  unfold targetYear
  cases hfound : requirementOf requirements p with
  | none =>
    refine .level fun r hr => ?_
    rw [requirementOf_eq_some_iff.2 hr] at hfound
    cases hfound
  | some r =>
    have hr := requirementOf_eq_some_iff.1 hfound
    by_cases hflexible : r.isFlexible = true
    · have hdrawn : (source.below32 3).1 < 3 := Chance.Source.below32_lt source (by decide)
      simp only [hflexible, if_true]
      exact .left_open hr (of_decide_eq_true hflexible) (by omega) (by omega)
    · have hyear : ¬ r.year < 0 := fun h => hflexible (decide_eq_true h)
      by_cases hpos : 0 < r.year
      · simp only [hflexible, hpos, if_true]
        exact .named hr hpos
      · simp only [hflexible, hpos, if_false]
        refine .level fun r' hr' => ?_
        obtain rfl : r = r' :=
          Option.some.inj (hfound.symm.trans (requirementOf_eq_some_iff.2 hr'))
        omega

theorem clampYear_bounds (year : Nat) : 1 ≤ t.clampYear year ∧ t.clampYear year ≤ t.numYears := by
  unfold clampYear numYears
  omega

theorem Aims.bounds (h : t.Aims requirements p year) : 1 ≤ year ∧ year ≤ t.numYears := by
  cases h with
  | named => exact clampYear_bounds _
  | left_open => exact clampYear_bounds _
  | level => exact clampYear_bounds _

theorem LastNamed.unique {r r' : Requirement} (h : LastNamed requirements p r)
    (h' : LastNamed requirements p r') : r = r' :=
  Option.some.inj <|
    (requirementOf_eq_some_iff.2 h).symm.trans (requirementOf_eq_some_iff.2 h')

/-- A year that is left open is not the first, if there is another one. -/
theorem Aims.two_le (h : t.Aims requirements p year) (hr : LastNamed requirements p r)
    (hopen : r.year < 0) (hyears : 2 ≤ t.numYears) : 2 ≤ year := by
  cases h with
  | named hr' hyear =>
    obtain rfl := hr.unique hr'
    omega
  | left_open _ _ htwo _ =>
    unfold clampYear
    omega
  | level hnone =>
    have hzero := hnone r hr
    omega

theorem le_baseTerm (year : Nat) (c : Course) :
    (year - 1) * termsPerYear + 1 ≤ baseTerm year c := by
  simp only [baseTerm]
  split
  · exact Nat.le_refl _
  · split
    · exact Nat.le_succ _
    · exact Nat.le_refl _

/-! ## The first pass -/

variable {courses : List PlannedCourse} {years : List Nat} {w : Placing} {i earliest : Nat}
  {loads : Loads}

/-- The place of a course was looked for from a term on, among loads that are no higher than
those in the end. -/
structure Chosen (t : Timetable) (courses : List PlannedCourse) (w : Placing) (p : PlannedCourse)
    (i earliest : Nat) (loads : Loads) : Prop where
  lower : ∀ s, loads.get s ≤ w.terms.count s
  term : w.terms[i]? = some (t.place loads p.course earliest).term
  reported : (courses.map (·.id)).Nodup →
    (p.id ∈ w.clamped ↔ (t.place loads p.course earliest).overflows = true)

/-- The next course makes no difference to the courses that have their places. -/
theorem Chosen.place (h : t.Chosen courses w p i earliest loads) (hp : courses[i]? = some p)
    (q : PlannedCourse) (spot : Spot) (source : Chance.Source) :
    t.Chosen (courses ++ [q]) (w.place q spot source) p i earliest loads where
  lower s := by
    refine Nat.le_trans (h.lower s) ?_
    rw [Placing.place, List.count_append]
    exact Nat.le_add_right _ _
  term := by
    rw [Placing.place, List.getElem?_append_left (List.getElem?_eq_some_iff.1 h.term).1]
    exact h.term
  reported hids := by
    rw [List.map_append, List.nodup_append] at hids
    obtain ⟨hcourses, -, hapart⟩ := hids
    have hne : p.id ≠ q.id :=
      hapart p.id (List.mem_map_of_mem (List.mem_of_getElem? hp)) q.id (by simp)
    rw [Placing.place, mem_clampIf_iff, ← h.reported hcourses]
    simp [hne]

/-- What holds of the first pass after some courses. -/
structure Underway (t : Timetable) (requirements : List Requirement) (courses : List PlannedCourse)
    (years : List Nat) (w : Placing) : Prop where
  years_length : years.length = courses.length
  terms_length : w.terms.length = courses.length
  counts : w.loads.Counts w.terms
  clamped_mem : ∀ id ∈ w.clamped, id ∈ courses.map (·.id)
  chosen : ∀ (i : Nat) (p : PlannedCourse), courses[i]? = some p → ∃ year loads,
    years[i]? = some year ∧ t.Aims requirements p year ∧
      t.Chosen courses w p i (baseTerm year p.course) loads

theorem underway_start (source : Chance.Source) :
    t.Underway requirements [] [] ⟨[], {}, [], source⟩ where
  years_length := rfl
  terms_length := rfl
  counts := Loads.counts_empty
  clamped_mem _ h := nomatch h
  chosen _ _ h := nomatch h

theorem Underway.chosen_last (h : t.Underway requirements courses years w) (p : PlannedCourse)
    (earliest : Nat) (source : Chance.Source) :
    t.Chosen (courses ++ [p]) (w.place p (t.place w.loads p.course earliest) source) p
      courses.length earliest w.loads where
  lower s := by
    rw [h.counts s, Placing.place, List.count_append]
    exact Nat.le_add_right _ _
  term := by
    rw [Placing.place, ← h.terms_length, List.getElem?_concat_length]
  reported hids := by
    rw [List.map_append, List.nodup_append] at hids
    have hnew : p.id ∉ w.clamped := fun hmem =>
      hids.2.2 p.id (h.clamped_mem p.id hmem) p.id (by simp) rfl
    rw [Placing.place, mem_clampIf_iff]
    simp [hnew]

theorem Underway.place (h : t.Underway requirements courses years w) {source : Chance.Source}
    (haims : t.Aims requirements p year) :
    t.Underway requirements (courses ++ [p]) (years ++ [year])
      (w.place p (t.place w.loads p.course (baseTerm year p.course)) source) where
  years_length := by simp [h.years_length]
  terms_length := by simp [Placing.place, h.terms_length]
  counts := h.counts.add _
  clamped_mem id hid := by
    rw [List.map_append, List.mem_append]
    rcases mem_clampIf_iff.1 hid with hold | ⟨-, rfl⟩
    · exact Or.inl (h.clamped_mem id hold)
    · exact Or.inr (by simp)
  chosen i q hq := by
    by_cases hi : i < courses.length
    · rw [List.getElem?_append_left hi] at hq
      obtain ⟨year', loads, hyear, haims', hchosen⟩ := h.chosen i q hq
      refine ⟨year', loads, ?_, haims', hchosen.place hq p _ source⟩
      rw [List.getElem?_append_left (h.years_length ▸ hi)]
      exact hyear
    · have hlast : i = courses.length := by
        have hlt := (List.getElem?_eq_some_iff.1 hq).1
        rw [List.length_append, List.length_singleton] at hlt
        omega
      subst hlast
      rw [List.getElem?_concat_length, Option.some.injEq] at hq
      subst hq
      refine ⟨year, w.loads, ?_, haims, h.chosen_last p _ source⟩
      rw [← h.years_length, List.getElem?_concat_length]

theorem placeAll_underway (t : Timetable) (requirements : List Requirement)
    (courses : List PlannedCourse) (source : Chance.Source) :
    t.Underway requirements courses (t.targetYears requirements courses source)
      (t.placeAll requirements courses source) := by
  refine placeAll_induct_years (P := t.Underway requirements) (underway_start source) ?_
  intro before years p w year source h hyear
  have haims := t.targetYear_aims requirements p w.source
  rw [hyear] at haims
  exact h.place haims

/-! ## The second pass -/

/-- The second pass moves courses only back. -/
theorem settle_later (catalog : Catalog) (courses : List PlannedCourse) {terms : List Nat}
    (hle : ∀ s ∈ terms, s ≤ t.numTerms) (loads : Loads) {i s : Nat} (hs : terms[i]? = some s) :
    ∃ s', (t.settle catalog courses terms loads).terms[i]? = some s' ∧ s ≤ s' := by
  refine List.foldlRecOn _ _ (motive := fun w : Settling => ∃ s', w.terms[i]? = some s' ∧ s ≤ s')
    ⟨s, hs, Nat.le_refl s⟩ ?_
  rintro w ⟨s', hs', hlater⟩ k -
  rcases settleNext_cases t (.ofCourses catalog courses) courses w k with
    ⟨heq, -⟩ | ⟨p, old, latest, -, hold, -, hlatest, heq⟩
  · rw [heq]
    exact ⟨s', hs', hlater⟩
  · rw [heq, moveAfter]
    by_cases hik : k = i
    · subst hik
      obtain rfl : s' = old := Option.some.inj (hs'.symm.trans hold)
      have hspot := placeAfter_placed t (w.loads.remove s') p.course latest
      refine ⟨_, List.getElem?_set_self (List.getElem?_eq_some_iff.1 hold).1, ?_⟩
      rcases hspot.earliest_le with hafter | ⟨hlast, -⟩
      · omega
      · exact hlast ▸ hle s (List.mem_of_getElem? hs)
    · exact ⟨s', (List.getElem?_set_ne hik).trans hs', hlater⟩

/-- No course is in a term before the year that it is meant for.  If its requirement leaves
the year open, it is not in the first of several years. -/
theorem schedule_from_year (t : Timetable) (catalog : Catalog) (requirements : List Requirement)
    (courses : List PlannedCourse) (source : Chance.Source) (ht : termsPerYear ≤ t.numTerms)
    {i : Nat} {p : PlannedCourse} (hp : courses[i]? = some p) :
    ∃ q year, (t.schedule catalog requirements courses source).1[i]? = some q ∧
      (t.targetYears requirements courses source)[i]? = some year ∧
      t.Aims requirements p year ∧ (year - 1) * termsPerYear + 1 ≤ q.term ∧
      ∀ r, LastNamed requirements p r → r.year < 0 → 2 ≤ t.numYears →
        termsPerYear + 1 ≤ q.term := by
  obtain ⟨year, loads, hyear, haims, hchosen⟩ :=
    (placeAll_underway t requirements courses source).chosen i p hp
  obtain ⟨s, hs, hlater⟩ := settle_later catalog courses
    (placeAll_le t requirements courses source) (t.placeAll requirements courses source).loads
    hchosen.term
  have hfrom : (year - 1) * termsPerYear + 1 ≤ s := by
    refine Nat.le_trans ?_ hlater
    rcases (place_placed p.course).earliest_le with hbase | ⟨hlast, -⟩
    · exact Nat.le_trans (le_baseTerm year p.course) hbase
    · rw [hlast]
      have hle := haims.bounds.2
      unfold numYears termsPerYear at *
      omega
  refine ⟨_, year, getElem?_withTerms hp hs, hyear, haims, hfrom, fun r hr hopen hyears => ?_⟩
  have htwo := haims.two_le hr hopen hyears
  show termsPerYear + 1 ≤ s
  unfold termsPerYear at *
  omega

/-- A requirement that leaves the year open, and two of one name. -/
def openAndThird : List Requirement :=
  [{ id := "open", credits := 3, year := -1 }, { id := "third", credits := 3, year := 1 },
    { id := "third", credits := 3, year := 3 }]

/-- A course for each name, and one of the first level that asks for the second of them. -/
def openThirdAndLevel : List PlannedCourse :=
  [{ sampleCourse 1 "MATH 100" "" with requirementId := some "open" },
    { sampleCourse 2 "MATH 101" "" with requirementId := some "third" },
    sampleCourse 3 "MATH 102" "MATH 101"]

/-- The last year is drawn for the first course.  The third course is placed in the first
year, and the second pass moves it behind the course that it asks for. -/
theorem schedule_from_year_openThirdAndLevel :
    let t : Timetable := ⟨16, 1⟩
    let source := Chance.Source.ofList [0xC0000000]
    t.targetYears openAndThird openThirdAndLevel source = [4, 3, 1] ∧
    (t.schedule (.ofCourses []) openAndThird openThirdAndLevel source).1.map (·.term)
      = [13, 9, 10] ∧
    ∃ q year,
      (t.schedule (.ofCourses []) openAndThird openThirdAndLevel source).1[0]? = some q ∧
      (t.targetYears openAndThird openThirdAndLevel source)[0]? = some year ∧
      t.Aims openAndThird openThirdAndLevel[0] year ∧ (year - 1) * termsPerYear + 1 ≤ q.term ∧
      ∀ r, LastNamed openAndThird openThirdAndLevel[0] r → r.year < 0 → 2 ≤ t.numYears →
        termsPerYear + 1 ≤ q.term := by
  intro t source
  exact ⟨by decide, by decide,
    schedule_from_year t (.ofCourses []) openAndThird openThirdAndLevel source (by decide) rfl⟩

end Timetable

end StudyPlan
