import StudyPlan.Timetable.Schedule

/-!
# Where a course is placed

There are three ways in which a course gets a place from a term on, and `Placed`
lists them: a winter term with room, some later term with room, or the last term
of all, with room or without.  The last two are overflows.  Whatever is known of a
place follows from this list, so nothing else looks into the searches.

Both passes place courses in these ways: `place_placed` is for the first pass,
and `placeAfter_placed` for the second, where the place is looked for from the
term after the latest prerequisite.
-/

namespace StudyPlan

namespace Timetable

/-! ## Searches -/

theorem firstFrom_spec {p : Nat → Bool} {s : Nat} :
    ∀ {count term : Nat}, firstFrom p count term = some s →
      term ≤ s ∧ s < term + count ∧ p s = true
  | 0, _, h => nomatch h
  | count + 1, term, h => by
    by_cases hp : p term = true
    · rw [firstFrom, if_pos hp, Option.some.injEq] at h
      subst h
      exact ⟨Nat.le_refl _, by omega, hp⟩
    · rw [firstFrom, if_neg hp] at h
      obtain ⟨hle, hlt, hs⟩ := firstFrom_spec h
      exact ⟨by omega, by omega, hs⟩

theorem lastFrom_spec {p : Nat → Bool} {s : Nat} :
    ∀ {count term : Nat}, lastFrom p count term = some s →
      term ≤ s ∧ s < term + count ∧ p s = true
  | 0, _, h => nomatch h
  | count + 1, term, h => by
    by_cases hp : p (term + count) = true
    · rw [lastFrom, if_pos hp, Option.some.injEq] at h
      subst h
      exact ⟨by omega, by omega, hp⟩
    · rw [lastFrom, if_neg hp] at h
      obtain ⟨hle, hlt, hs⟩ := lastFrom_spec h
      exact ⟨hle, by omega, hs⟩

/-! ## Places -/

/-- A term from a term on with room. -/
structure Roomy (t : Timetable) (loads : Loads) (earliest s : Nat) : Prop where
  pos : 1 ≤ s
  earliest_le : earliest ≤ s
  le : s ≤ t.numTerms
  room : loads.get s < t.capacity

/-- The ways in which a course gets a place from a term on. -/
inductive Placed (t : Timetable) (loads : Loads) (earliest : Nat) : Spot → Prop
  /-- In a winter term with room. -/
  | winter {s : Nat} (hs : t.Roomy loads earliest s) (hw : Term.isStart s = true) :
      Placed t loads earliest ⟨s, false⟩
  /-- In some term with room. -/
  | late {s : Nat} (hs : t.Roomy loads earliest s) : Placed t loads earliest ⟨s, true⟩
  /-- In the last term. -/
  | last : Placed t loads earliest ⟨t.numTerms, true⟩

variable {t : Timetable} {loads : Loads} {earliest : Nat}

/-- The terms that the searches go through are those from a term on. -/
theorem roomy_of_search {s : Nat} (hle : Max.max earliest 1 ≤ s)
    (hlt : s < Max.max earliest 1 + t.termsFrom (Max.max earliest 1))
    (hroom : t.hasRoom loads s = true) : t.Roomy loads earliest s := by
  unfold termsFrom at hlt
  exact ⟨by omega, by omega, by omega, of_decide_eq_true hroom⟩

theorem place_placed (c : Course) : t.Placed loads earliest (t.place loads c earliest) := by
  unfold place
  cases hoffered : t.offeredTerm? loads c earliest with
  | some s =>
    obtain ⟨hle, hlt, hs⟩ := firstFrom_spec hoffered
    simp only [Bool.and_eq_true] at hs
    exact .winter (roomy_of_search hle hlt hs.1.2) hs.1.1
  | none =>
    simp only
    cases hwinter : t.winterTerm? loads earliest with
    | some s =>
      obtain ⟨hle, hlt, hs⟩ := firstFrom_spec hwinter
      simp only [Bool.and_eq_true] at hs
      exact .winter (roomy_of_search hle hlt hs.2) hs.1
    | none =>
      simp only [overflowTerm]
      cases hlate : lastFrom (t.hasRoom loads) (t.termsFrom (Max.max earliest 1))
          (Max.max earliest 1) with
      | some s =>
        obtain ⟨hle, hlt, hs⟩ := lastFrom_spec hlate
        exact .late (roomy_of_search hle hlt hs)
      | none => exact .last

theorem placeAfter_placed (t : Timetable) (loads : Loads) (c : Course) (latest : Nat) :
    t.Placed loads (latest + 1) (t.placeAfter loads c latest) := by
  unfold placeAfter
  split
  · exact .last
  · exact place_placed c

theorem Placed.term_le {spot : Spot} (h : t.Placed loads earliest spot) :
    spot.term ≤ t.numTerms := by
  cases h with
  | winter hs _ => exact hs.le
  | late hs => exact hs.le
  | last => exact Nat.le_refl _

theorem Placed.term_pos {spot : Spot} (h : t.Placed loads earliest spot) (ht : 1 ≤ t.numTerms) :
    1 ≤ spot.term := by
  cases h with
  | winter hs _ => exact hs.pos
  | late hs => exact hs.pos
  | last => exact ht

/-- A place is not too early unless it is an overflow into the last term. -/
theorem Placed.earliest_le {spot : Spot} (h : t.Placed loads earliest spot) :
    earliest ≤ spot.term ∨ (spot.term = t.numTerms ∧ spot.overflows = true) := by
  cases h with
  | winter hs _ => exact Or.inl hs.earliest_le
  | late hs => exact Or.inl hs.earliest_le
  | last => exact Or.inr ⟨rfl, rfl⟩

/-- Before the last term there is always room for a place. -/
theorem Placed.room {spot : Spot} (h : t.Placed loads earliest spot)
    (hlt : spot.term < t.numTerms) : loads.get spot.term < t.capacity := by
  cases h with
  | winter hs _ => exact hs.room
  | late hs => exact hs.room
  | last => exact absurd hlt (Nat.lt_irrefl _)

theorem Placed.isStart {spot : Spot} (h : t.Placed loads earliest spot) :
    Term.isStart spot.term = true ∨ spot.overflows = true := by
  cases h with
  | winter _ hw => exact Or.inl hw
  | late _ => exact Or.inr rfl
  | last => exact Or.inr rfl

/-! ## The first pass -/

/-- The first pass after one more course is placed. -/
def Placing.place (w : Placing) (p : PlannedCourse) (spot : Spot) (source : Chance.Source) :
    Placing where
  terms := w.terms ++ [spot.term]
  loads := w.loads.add spot.term
  clamped := if spot.overflows then w.clamped ++ [p.id] else w.clamped
  source := source

/-- The reported numbers after a place is given to the course of a number. -/
theorem mem_clampIf_iff {spot : Spot} {clamped : List Nat} {id k : Nat} :
    (id ∈ if spot.overflows then clamped ++ [k] else clamped) ↔
      id ∈ clamped ∨ (spot.overflows = true ∧ id = k) := by
  cases spot.overflows with
  | true => simp
  | false => simp

/-- The years that the first pass aims at, in plan order. -/
def targetYears (t : Timetable) (requirements : List Requirement) :
    List PlannedCourse → Chance.Source → List Nat
  | [], _ => []
  | p :: rest, s =>
    let (year, s) := t.targetYear p (requirementOf requirements p) s
    year :: targetYears t requirements rest s

/-- What placing one more course from the base term of its year on keeps, the first pass
keeps. -/
theorem placeAll_induct_years {requirements : List Requirement} {courses : List PlannedCourse}
    {source : Chance.Source} {P : List PlannedCourse → List Nat → Placing → Prop}
    (start : P [] [] ⟨[], {}, [], source⟩)
    (step : ∀ (before : List PlannedCourse) (years : List Nat) (p : PlannedCourse) (w : Placing)
      (year : Nat) (source : Chance.Source), P before years w →
        t.targetYear p (requirementOf requirements p) w.source = (year, source) →
          P (before ++ [p]) (years ++ [year])
            (w.place p (t.place w.loads p.course (baseTerm year p.course)) source)) :
    P courses (t.targetYears requirements courses source)
      (t.placeAll requirements courses source) := by
  have hrun : ∀ (rest before : List PlannedCourse) (years : List Nat) (w : Placing),
      P before years w → P (before ++ rest) (years ++ t.targetYears requirements rest w.source)
        (rest.foldl (t.placeNext requirements) w) := by
    intro rest
    induction rest with
    | nil => intro before years w h; simpa [targetYears] using h
    | cons p rest ih =>
      intro before years w h
      obtain ⟨year, source, haims⟩ :
          ∃ year source, t.targetYear p (requirementOf requirements p) w.source = (year, source) :=
        ⟨_, _, rfl⟩
      have hnext := ih _ _ _ (step before years p w year source h haims)
      simpa [targetYears, placeNext, haims, Placing.place] using hnext
  exact hrun courses [] [] _ start

/-- What placing one more course keeps, the first pass keeps. -/
theorem placeAll_induct {requirements : List Requirement} {courses : List PlannedCourse}
    {source : Chance.Source} {P : List PlannedCourse → Placing → Prop}
    (start : P [] ⟨[], {}, [], source⟩)
    (step : ∀ (before : List PlannedCourse) (p : PlannedCourse) (w : Placing) (earliest : Nat)
      (spot : Spot) (source : Chance.Source), P before w → t.Placed w.loads earliest spot →
        P (before ++ [p]) (w.place p spot source)) :
    P courses (t.placeAll requirements courses source) :=
  placeAll_induct_years (P := fun before _ w => P before w) start
    fun before _ p w _ source h _ => step before p w _ _ source h (place_placed p.course)

variable (t : Timetable) (requirements : List Requirement) (courses : List PlannedCourse)
  (source : Chance.Source)

theorem length_placeAll :
    (t.placeAll requirements courses source).terms.length = courses.length :=
  placeAll_induct (P := fun before w => w.terms.length = before.length) rfl
    fun _ _ _ _ _ _ h _ => by simp [Placing.place, h]

theorem placeAll_le : ∀ s ∈ (t.placeAll requirements courses source).terms, s ≤ t.numTerms :=
  placeAll_induct (P := fun _ w => ∀ s ∈ w.terms, s ≤ t.numTerms) (fun _ h => nomatch h)
    fun _ _ _ _ _ _ h hplaced s hs => by
      cases List.mem_append.1 hs with
      | inl hold => exact h s hold
      | inr hnew => exact List.mem_singleton.1 hnew ▸ hplaced.term_le

end Timetable

end StudyPlan
