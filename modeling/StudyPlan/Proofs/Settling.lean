import StudyPlan.Proofs.Ordering
import StudyPlan.Proofs.Placement

/-!
# Dependents come after their prerequisites

The second pass comes to every position once, in the order of precedence.
`settleNext_cases` lists what it does there: nothing, if the course is after all
of its prerequisites, and otherwise it moves the course after the latest of them.
Right after that the course is *settled* with respect to each prerequisite: later
than it, or reported and in the last term (`settled_settleNext`).

The pass changes no other term than that of the position it is at
(`settleNext_getElem?`), and what is reported stays reported.  So a settled pair
stays settled as long as the pass comes to neither position again, and this is so
for every prerequisite that the order puts before the dependent (`settle_settled`).
Terms never pass the last one, so a dependent in the last term is not before its
prerequisite, and both are there if it is not after it (`Follows`).
-/

namespace StudyPlan

namespace Timetable

variable {t : Timetable} {g : Precedence} {courses : List PlannedCourse}

/-! ## One position -/

theorem settleNext_cases (t : Timetable) (g : Precedence) (courses : List PlannedCourse)
    (w : Settling) (i : Nat) :
    (t.settleNext g courses w i = w ∧
      ∀ p old latest, courses[i]? = some p → w.terms[i]? = some old →
        latestBefore g w.terms i = some latest → latest < old) ∨
    ∃ p old latest, courses[i]? = some p ∧ w.terms[i]? = some old ∧
      latestBefore g w.terms i = some latest ∧ old ≤ latest ∧
      t.settleNext g courses w i = t.moveAfter w i p old latest := by
  unfold settleNext
  split
  next latest p old hlatest hp hold =>
    by_cases hlt : latest < old
    · rw [if_pos hlt]
      refine Or.inl ⟨rfl, fun p' old' latest' _ hold' hlatest' => ?_⟩
      rw [hold, Option.some.injEq] at hold'
      rw [hlatest, Option.some.injEq] at hlatest'
      exact hold' ▸ hlatest' ▸ hlt
    · rw [if_neg hlt]
      exact Or.inr ⟨p, old, latest, hp, hold, hlatest, Nat.le_of_not_lt hlt, rfl⟩
  next hnone => exact Or.inl ⟨rfl, fun p old latest hp hold hlatest =>
      (hnone latest p old hlatest hp hold).elim⟩

theorem latestBefore_of_edge {terms : List Nat} {i j s : Nat} (he : g.Edge i j)
    (hs : terms[i]? = some s) : ∃ latest, latestBefore g terms j = some latest ∧ s ≤ latest := by
  have hmem : s ∈ (g.prerequisitesOf j).filterMap (terms[·]?) :=
    List.mem_filterMap.2 ⟨i, Precedence.mem_prerequisitesOf.2 he, hs⟩
  obtain ⟨latest, hlatest⟩ := Option.isSome_iff_exists.1 (List.isSome_max?_of_mem hmem)
  exact ⟨latest, hlatest, (List.max?_eq_some_iff.1 hlatest).2 s hmem⟩

/-! ## What one position leaves alone -/

theorem settleNext_getElem? {w : Settling} {i k : Nat} (h : i ≠ k) :
    (t.settleNext g courses w i).terms[k]? = w.terms[k]? := by
  obtain ⟨heq, -⟩ | ⟨p, old, latest, -, -, -, -, heq⟩ := settleNext_cases t g courses w i
  · rw [heq]
  · rw [heq, moveAfter]
    exact List.getElem?_set_ne h

theorem length_settleNext (w : Settling) (i : Nat) :
    (t.settleNext g courses w i).terms.length = w.terms.length := by
  obtain ⟨heq, -⟩ | ⟨p, old, latest, -, -, -, -, heq⟩ := settleNext_cases t g courses w i
  · rw [heq]
  · rw [heq, moveAfter]
    exact List.length_set

theorem mem_clamped_settleNext {w : Settling} {i id : Nat} (h : id ∈ w.report.clamped) :
    id ∈ (t.settleNext g courses w i).report.clamped := by
  obtain ⟨heq, -⟩ | ⟨p, old, latest, -, -, -, -, heq⟩ := settleNext_cases t g courses w i
  · rwa [heq]
  · rw [heq, moveAfter]
    simp only
    split
    · exact List.mem_append_left _ h
    · exact h

/-- Terms stay within the timetable. -/
theorem settleNext_le {w : Settling} {i : Nat} (h : ∀ s ∈ w.terms, s ≤ t.numTerms) :
    ∀ s ∈ (t.settleNext g courses w i).terms, s ≤ t.numTerms := by
  obtain ⟨heq, -⟩ | ⟨p, old, latest, -, -, -, -, heq⟩ := settleNext_cases t g courses w i
  · rwa [heq]
  · rw [heq, moveAfter]
    intro s hs
    cases List.mem_or_eq_of_mem_set hs with
    | inl hmem => exact h s hmem
    | inr hnew => exact hnew ▸ (placeAfter_placed t _ p.course latest).term_le

/-! ## Settled pairs -/

/-- The second of two positions is later than the first, or reported and in the last term. -/
def Settled (t : Timetable) (courses : List PlannedCourse) (w : Settling) (i j : Nat) : Prop :=
  ∃ q s s', courses[j]? = some q ∧ w.terms[i]? = some s ∧ w.terms[j]? = some s' ∧
    (s < s' ∨ (s' = t.numTerms ∧ q.id ∈ w.report.clamped))

/-- At a dependent, the pass settles it with respect to each of its prerequisites. -/
theorem settled_settleNext {w : Settling} {i j : Nat} (he : g.Edge i j) (hij : i ≠ j)
    (hlen : w.terms.length = courses.length) (hi : i < courses.length)
    (hj : j < courses.length) : t.Settled courses (t.settleNext g courses w j) i j := by
  obtain ⟨s, hs⟩ : ∃ s, w.terms[i]? = some s := ⟨_, List.getElem?_eq_getElem (hlen ▸ hi)⟩
  obtain ⟨latest, hlatest, hle⟩ := latestBefore_of_edge he hs
  obtain ⟨heq, hstay⟩ | ⟨q, old, latest', hq, hold, hlatest', -, heq⟩ :=
    settleNext_cases t g courses w j
  · obtain ⟨q, hq⟩ : ∃ q, courses[j]? = some q := ⟨_, List.getElem?_eq_getElem hj⟩
    obtain ⟨old, hold⟩ : ∃ old, w.terms[j]? = some old := ⟨_, List.getElem?_eq_getElem (hlen ▸ hj)⟩
    rw [heq]
    exact ⟨q, s, old, hq, hs, hold,
      Or.inl (Nat.lt_of_le_of_lt hle (hstay q old latest hq hold hlatest))⟩
  · obtain rfl : latest' = latest := Option.some.inj (hlatest'.symm.trans hlatest)
    have hplaced := placeAfter_placed t (w.loads.remove old) q.course latest'
    rw [heq, moveAfter]
    refine ⟨q, s, _, hq, (List.getElem?_set_ne (Ne.symm hij)).trans hs,
      List.getElem?_set_self (hlen ▸ hj), ?_⟩
    cases hplaced.earliest_le with
    | inl hafter => exact Or.inl (Nat.lt_of_le_of_lt hle hafter)
    | inr hlast =>
      refine Or.inr ⟨hlast.1, ?_⟩
      simp only [hlast.2, if_true]
      exact List.mem_append_right _ (List.mem_singleton.2 rfl)

theorem Settled.settleNext {w : Settling} {i j k : Nat} (h : t.Settled courses w i j)
    (hi : k ≠ i) (hj : k ≠ j) : t.Settled courses (t.settleNext g courses w k) i j := by
  obtain ⟨q, s, s', hq, hs, hs', hlt⟩ := h
  refine ⟨q, s, s', hq, (settleNext_getElem? hi).trans hs, (settleNext_getElem? hj).trans hs', ?_⟩
  exact hlt.imp_right fun ⟨hlast, hmem⟩ => ⟨hlast, mem_clamped_settleNext hmem⟩

/-! ## The whole pass -/

theorem length_foldl_settleNext (order : List Nat) (w : Settling) :
    (order.foldl (t.settleNext g courses) w).terms.length = w.terms.length :=
  List.foldlRecOn order _ (motive := fun w' => w'.terms.length = w.terms.length) rfl
    fun w' h i _ => (length_settleNext w' i).trans h

theorem Settled.foldl {w : Settling} {i j : Nat} (h : t.Settled courses w i j) (order : List Nat)
    (ho : ∀ k ∈ order, k ≠ i ∧ k ≠ j) :
    t.Settled courses (order.foldl (t.settleNext g courses) w) i j :=
  List.foldlRecOn order _ (motive := fun w' => t.Settled courses w' i j) h
    fun _ h k hk => h.settleNext (ho k hk).1 (ho k hk).2

variable {catalog : Catalog} {terms : List Nat} {loads : Loads}

theorem length_settle (t : Timetable) (catalog : Catalog) (courses : List PlannedCourse)
    (terms : List Nat) (loads : Loads) :
    (t.settle catalog courses terms loads).terms.length = terms.length :=
  length_foldl_settleNext _ _

theorem settle_le (h : ∀ s ∈ terms, s ≤ t.numTerms) :
    ∀ s ∈ (t.settle catalog courses terms loads).terms, s ≤ t.numTerms :=
  List.foldlRecOn _ _ (motive := fun w : Settling => ∀ s ∈ w.terms, s ≤ t.numTerms) h
    fun _ h _ _ => settleNext_le h

/-- After the pass, every pair is settled whose prerequisite the order puts first. -/
theorem settle_settled (hlen : terms.length = courses.length) {i j : Nat}
    (h : (Precedence.ofCourses catalog courses).Forward i j) :
    t.Settled courses (t.settle catalog courses terms loads) i j := by
  have hb := Precedence.ofCourses_bounded catalog courses
  obtain ⟨before, after, heq, -, hafter⟩ := h.order_split hb
  have hij : i ≠ j := fun hij => Nat.lt_irrefl _ (hij ▸ h.idxOf_lt hb)
  simp only [settle, heq, List.foldl_append, List.foldl_cons]
  refine (settled_settleNext h.1 hij ?_ (hb h.1).1 (hb h.1).2).foldl after hafter
  exact (length_foldl_settleNext before _).trans hlen

/-! ## The result -/

/-- A dependent is later than its prerequisite.  The one exception is that both
are in the last term and the dependent is reported. -/
def Follows (t : Timetable) (clamped : List Nat) (p q : PlannedCourse) : Prop :=
  p.term < q.term ∨ (p.term = t.numTerms ∧ q.term = t.numTerms ∧ q.id ∈ clamped)

/-- Every dependent follows its prerequisites: all of them if there is no circle,
and otherwise those that stand before it in the plan. -/
def Respects (t : Timetable) (g : Precedence) (courses : List PlannedCourse)
    (clamped : List Nat) : Prop :=
  ∀ i j, g.Edge i j → g.Acyclic ∨ i < j →
    ∃ p q, courses[i]? = some p ∧ courses[j]? = some q ∧ t.Follows clamped p q

theorem getElem?_withTerms {i s : Nat} {p : PlannedCourse} (hp : courses[i]? = some p)
    (hs : terms[i]? = some s) : (withTerms courses terms)[i]? = some { p with term := s } := by
  simp [withTerms, List.getElem?_zipWith, hp, hs]

theorem mem_terms_of_withTerms {i : Nat} {p : PlannedCourse}
    (hp : (withTerms courses terms)[i]? = some p) : p.term ∈ terms := by
  obtain ⟨_, s, -, hs, rfl⟩ := List.getElem?_zipWith_eq_some.1 hp
  exact List.mem_of_getElem? hs

theorem mem_mergeIds {ids more : List Nat} {id : Nat} :
    id ∈ mergeIds ids more ↔ id ∈ ids ∨ id ∈ more := by
  induction more generalizing ids with
  | nil => simp [mergeIds]
  | cons k rest ih =>
    have hstep : mergeIds ids (k :: rest)
        = mergeIds (if ids.contains k then ids else ids ++ [k]) rest := rfl
    rw [hstep, ih, List.mem_cons]
    by_cases hk : k ∈ ids
    · simp only [List.contains_iff_mem, hk, if_true]
      constructor
      · rintro (h | h)
        · exact Or.inl h
        · exact Or.inr (Or.inr h)
      · rintro (h | rfl | h)
        · exact Or.inl h
        · exact Or.inl hk
        · exact Or.inr h
    · simp only [List.contains_iff_mem, hk, if_false, List.mem_append, List.mem_singleton, or_assoc]

/-- Of a settled pair of courses, the second is later, or reported and in the last term. -/
theorem Settled.withTerms {w : Settling} {i j : Nat} (h : t.Settled courses w i j)
    (hi : i < courses.length) :
    ∃ p q, (Timetable.withTerms courses w.terms)[i]? = some p ∧
      (Timetable.withTerms courses w.terms)[j]? = some q ∧
        (p.term < q.term ∨ (q.term = t.numTerms ∧ q.id ∈ w.report.clamped)) := by
  obtain ⟨q, s, s', hq, hs, hs', hlt⟩ := h
  have hp : courses[i]? = some courses[i] := List.getElem?_eq_getElem hi
  exact ⟨_, _, getElem?_withTerms hp hs, getElem?_withTerms hq hs', hlt⟩

theorem respects_settle (hlen : terms.length = courses.length)
    (hle : ∀ s ∈ terms, s ≤ t.numTerms) {clamped : List Nat}
    (hc : ∀ id ∈ (t.settle catalog courses terms loads).report.clamped, id ∈ clamped) :
    t.Respects (Precedence.ofCourses catalog courses)
      (withTerms courses (t.settle catalog courses terms loads).terms) clamped := by
  intro i j he hf
  have hi := (Precedence.ofCourses_bounded catalog courses he).1
  obtain ⟨p, q, hp, hq, hlt⟩ := (settle_settled hlen ⟨he, hf⟩).withTerms hi
  refine ⟨p, q, hp, hq, ?_⟩
  by_cases hpq : p.term < q.term
  · exact Or.inl hpq
  · obtain ⟨hlast, hmem⟩ := hlt.resolve_left hpq
    have hple := settle_le hle p.term (mem_terms_of_withTerms hp)
    exact Or.inr ⟨by omega, hlast, hc q.id hmem⟩

/-- The courses that are given terms follow their prerequisites, and those that
have terms do after the order is enforced. -/
theorem dependents_follow (t : Timetable) (catalog : Catalog) (courses : List PlannedCourse) :
    (∀ (requirements : List Requirement) (source : Chance.Source),
      t.Respects (Precedence.ofCourses catalog courses)
        (t.schedule catalog requirements courses source).1
        (t.schedule catalog requirements courses source).2.1.clamped) ∧
    ((∀ p ∈ courses, 1 ≤ p.term ∧ p.term ≤ t.numTerms) →
      t.Respects (Precedence.ofCourses catalog courses) (t.enforce catalog courses).1
        (t.enforce catalog courses).2.clamped) := by
  constructor
  · intro requirements source
    exact respects_settle (length_placeAll t requirements courses source)
      (placeAll_le t requirements courses source) fun id hid => mem_mergeIds.2 (Or.inr hid)
  · intro hterms
    refine respects_settle (List.length_map ..) (fun s hs => ?_) fun _ h => h
    obtain ⟨p, hp, rfl⟩ := List.mem_map.1 hs
    exact (hterms p hp).2

/-- A required course in the first term that asks for a code. -/
def sampleCourse (id : Nat) (code asks : String) : PlannedCourse :=
  { id, term := 1, course := { code, credits := 3, prerequisiteText := some asks } }

/-- Four courses in the first term, each of which asks for the one before it. -/
def chainOfFour : List PlannedCourse :=
  [sampleCourse 1 "MATH 100" "", sampleCourse 2 "MATH 101" "MATH 100",
    sampleCourse 3 "MATH 200" "MATH 101", sampleCourse 4 "MATH 307" "MATH 200"]

/-- In one year there is room for two of the chain in winter.  The other two end up
in the last term and are reported. -/
theorem dependents_follow_chainOfFour :
    (Precedence.ofCourses (.ofCourses []) chainOfFour).edges = [(0, 1), (1, 2), (2, 3)] ∧
    ((⟨4, 5⟩ : Timetable).enforce (.ofCourses []) chainOfFour).1.map (·.term) = [1, 2, 4, 4] ∧
    ((⟨4, 5⟩ : Timetable).enforce (.ofCourses []) chainOfFour).2.clamped = [3, 4] ∧
    (⟨4, 5⟩ : Timetable).Respects (Precedence.ofCourses (.ofCourses []) chainOfFour)
      ((⟨4, 5⟩ : Timetable).enforce (.ofCourses []) chainOfFour).1
      ((⟨4, 5⟩ : Timetable).enforce (.ofCourses []) chainOfFour).2.clamped := by
  refine ⟨by decide, by decide, by decide, ?_⟩
  exact (dependents_follow ⟨4, 5⟩ (.ofCourses []) chainOfFour).2 (by decide)

end Timetable

end StudyPlan
