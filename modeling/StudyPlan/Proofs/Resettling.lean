import StudyPlan.Plan.Edit
import StudyPlan.Proofs.Retiming

/-!
# Running the second pass again

The second pass looks at a course only through the latest of its prerequisites, and
that is the term of one of them (`exists_edge_latestBefore`).  So it finds something
to do exactly where an edge is not *observed*: where a dependent is not after one of its
prerequisites.  If it reports no move, it has been at every position and found nothing
(`foldl_settleNext_of_moved_nil`); and it finds nothing if every edge is observed
(`settleNext_eq_self`).

A pass over terms that it gave itself is not always idle.  A dependent that did not
fit in is in the last term, and so is its prerequisite.  That pair is not observed, and
the dependent is moved again.  But after the last term there is no place other than the last
term itself, so it ends up where it was (`settleNext_terms_of_closed`).  The other
edges are observed, if there is no circle.
-/

namespace StudyPlan

namespace Precedence

/-- Every dependent is in a later term than its prerequisite. -/
def Observed (g : Precedence) (courses : List PlannedCourse) : Prop :=
  ∀ i j p q, g.Edge i j → courses[i]? = some p → courses[j]? = some q → p.term < q.term

theorem positions_untimed (courses : List PlannedCourse) :
    positions (courses.map PlannedCourse.untimed) = positions courses := by
  unfold positions
  rw [List.zipIdx_map, List.foldl_map]
  rfl

/-- Terms make no difference to what comes before what. -/
theorem ofCourses_untimed (catalog : Catalog) (courses : List PlannedCourse) :
    ofCourses catalog (courses.map PlannedCourse.untimed) = ofCourses catalog courses := by
  unfold ofCourses join
  rw [List.length_map, positions_untimed, List.zipIdx_map, List.foldl_map]
  rfl

theorem ofCourses_congr (catalog : Catalog) {courses out : List PlannedCourse}
    (h : courses.map PlannedCourse.untimed = out.map PlannedCourse.untimed) :
    ofCourses catalog courses = ofCourses catalog out := by
  rw [← ofCourses_untimed, h, ofCourses_untimed]

end Precedence

namespace Timetable

variable {t : Timetable} {g : Precedence} {courses : List PlannedCourse} {w : Settling}

theorem exists_edge_latestBefore {terms : List Nat} {j latest : Nat}
    (h : latestBefore g terms j = some latest) : ∃ i, g.Edge i j ∧ terms[i]? = some latest := by
  obtain ⟨i, hi, hs⟩ := List.mem_filterMap.1 (List.max?_eq_some_iff.1 h).1
  exact ⟨i, Precedence.mem_prerequisitesOf.1 hi, hs⟩

/-! ## Nothing to do -/

theorem settleNext_eq_self {i : Nat}
    (h : ∀ k s s', g.Edge k i → w.terms[k]? = some s → w.terms[i]? = some s' → s < s') :
    t.settleNext g courses w i = w := by
  rcases settleNext_cases t g courses w i with ⟨heq, -⟩ | ⟨p, old, latest, -, hold, hlatest, hle, -⟩
  · exact heq
  · obtain ⟨k, he, hk⟩ := exists_edge_latestBefore hlatest
    exact absurd (h k latest old he hk hold) (Nat.not_lt.2 hle)

/-- The pass does nothing where every dependent is in a later term than its prerequisite. -/
theorem settle_eq_self (t : Timetable) (catalog : Catalog) (courses : List PlannedCourse)
    (terms : List Nat) (loads : Loads)
    (h : ∀ k i s s', (Precedence.ofCourses catalog courses).Edge k i → terms[k]? = some s →
      terms[i]? = some s' → s < s') :
    t.settle catalog courses terms loads = ⟨terms, loads, {}⟩ := by
  refine List.foldlRecOn _ _ (motive := fun w : Settling => w = ⟨terms, loads, {}⟩) rfl ?_
  rintro w rfl i -
  exact settleNext_eq_self fun k s s' => h k i s s'

/-- A pass that reports no move has done nothing and found every position in order. -/
theorem foldl_settleNext_of_moved_nil : ∀ {order : List Nat} {w : Settling},
    (order.foldl (t.settleNext g courses) w).report.moved = [] →
      order.foldl (t.settleNext g courses) w = w ∧
        ∀ i ∈ order, ∀ p old latest, courses[i]? = some p → w.terms[i]? = some old →
          latestBefore g w.terms i = some latest → latest < old
  | [], _, _ => ⟨rfl, fun _ hi => nomatch hi⟩
  | i :: order, w, h => by
    have hmoved : (order.foldl (t.settleNext g courses)
        (t.settleNext g courses w i)).report.moved = [] := h
    obtain ⟨hrest, hall⟩ := foldl_settleNext_of_moved_nil hmoved
    rcases settleNext_cases t g courses w i with ⟨heq, hstay⟩ | ⟨p, old, latest, -, -, -, -, heq⟩
    · rw [heq] at hrest hall
      refine ⟨?_, ?_⟩
      · rw [List.foldl_cons, heq, hrest]
      · intro k hk
        rcases List.mem_cons.1 hk with rfl | hk'
        · exact hstay
        · exact hall k hk'
    · -- The position was moved, and that is reported.
      rw [List.foldl_cons, hrest, heq] at h
      simp [moveAfter] at h

/-! ## Nowhere else to go -/

/-- Every dependent is in a later term than its prerequisite, or both are in the last one. -/
def Closed (t : Timetable) (g : Precedence) (terms : List Nat) : Prop :=
  ∀ i j s s', g.Edge i j → terms[i]? = some s → terms[j]? = some s' →
    s < s' ∨ (s = t.numTerms ∧ s' = t.numTerms)

theorem settleNext_terms_of_closed (h : t.Closed g w.terms) (i : Nat) :
    (t.settleNext g courses w i).terms = w.terms := by
  rcases settleNext_cases t g courses w i with
    ⟨heq, -⟩ | ⟨p, old, latest, -, hold, hlatest, hle, heq⟩
  · rw [heq]
  · obtain ⟨k, he, hk⟩ := exists_edge_latestBefore hlatest
    rcases h k i latest old he hk hold with hlt | ⟨rfl, rfl⟩
    · exact absurd hlt (Nat.not_lt.2 hle)
    · obtain ⟨hi, hlast⟩ := List.getElem?_eq_some_iff.1 hold
      rw [heq]
      show w.terms.set i (t.placeAfter _ p.course t.numTerms).term = w.terms
      rw [placeAfter, if_pos (Nat.le_refl _)]
      exact hlast ▸ List.set_getElem_self hi

theorem settle_terms_of_closed {catalog : Catalog} {terms : List Nat}
    (h : t.Closed (Precedence.ofCourses catalog courses) terms) (loads : Loads) :
    (t.settle catalog courses terms loads).terms = terms :=
  List.foldlRecOn _ _ (motive := fun w : Settling => w.terms = terms) rfl
    fun _ heq i _ => (settleNext_terms_of_closed (heq.symm ▸ h) i).trans heq

/-! ## The courses in their terms -/

variable {catalog : Catalog}

theorem withTerms_self : ∀ courses : List PlannedCourse,
    withTerms courses (courses.map (·.term)) = courses
  | [] => rfl
  | p :: rest => congrArg (p :: ·) (withTerms_self rest)

theorem enforce_idle_iff (t : Timetable) (catalog : Catalog) (courses : List PlannedCourse) :
    (t.enforce catalog courses).2.moved = [] ∧ (t.enforce catalog courses).1 = courses ↔
      (Precedence.ofCourses catalog courses).Observed courses := by
  constructor
  · rintro ⟨hmoved, -⟩ i j p q he hp hq
    have hb := Precedence.ofCourses_bounded catalog courses
    have hj := (Precedence.order_perm hb).mem_iff.2 (List.mem_range.2 (hb he).2)
    have hterm : ∀ (k : Nat) (r : PlannedCourse), courses[k]? = some r →
        (courses.map (·.term))[k]? = some r.term := by
      intro k r hr
      rw [List.getElem?_map, hr, Option.map_some]
    obtain ⟨latest, hlatest, hle⟩ := latestBefore_of_edge he (hterm i p hp)
    have hlt := (foldl_settleNext_of_moved_nil hmoved).2 j hj q q.term latest hq (hterm j q hq)
      hlatest
    exact Nat.lt_of_le_of_lt hle hlt
  · intro hobs
    have hterms : ∀ k i s s', (Precedence.ofCourses catalog courses).Edge k i →
        (courses.map (·.term))[k]? = some s → (courses.map (·.term))[i]? = some s' → s < s' := by
      intro k i s s' he hs hs'
      rw [List.getElem?_map, Option.map_eq_some_iff] at hs hs'
      obtain ⟨p, hp, rfl⟩ := hs
      obtain ⟨q, hq, rfl⟩ := hs'
      exact hobs k i p q he hp hq
    rw [enforce, settle_eq_self t catalog courses _ _ hterms]
    exact ⟨rfl, withTerms_self courses⟩

theorem enforce_enforce (t : Timetable) (catalog : Catalog) (courses : List PlannedCourse)
    (ha : (Precedence.ofCourses catalog courses).Acyclic)
    (hle : ∀ p ∈ courses, p.term ≤ t.numTerms) :
    (t.enforce catalog (t.enforce catalog courses).1).1 = (t.enforce catalog courses).1 := by
  have hlen := length_enforce_terms t catalog courses
  have hsame : Precedence.ofCourses catalog (t.enforce catalog courses).1
      = Precedence.ofCourses catalog courses :=
    Precedence.ofCourses_congr catalog (map_untimed_withTerms hlen).symm
  have hterms : ∀ s ∈ courses.map (·.term), s ≤ t.numTerms := by
    intro s hs
    obtain ⟨p, hp, rfl⟩ := List.mem_map.1 hs
    exact hle p hp
  have hrespects : t.Respects (Precedence.ofCourses catalog courses) (t.enforce catalog courses).1
      (t.enforce catalog courses).2.clamped :=
    respects_settle (List.length_map ..) hterms fun _ hid => hid
  have hclosed : t.Closed (Precedence.ofCourses catalog (t.enforce catalog courses).1)
      ((t.enforce catalog courses).1.map (·.term)) := by
    intro i j s s' he hs hs'
    rw [hsame] at he
    obtain ⟨p, q, hp, hq, hfollows⟩ := hrespects i j he (Or.inl ha)
    rw [List.getElem?_map, hp] at hs
    rw [List.getElem?_map, hq] at hs'
    cases hs
    cases hs'
    rcases hfollows with hlt | ⟨hlast, hlast', -⟩
    · exact Or.inl hlt
    · exact Or.inr ⟨hlast, hlast'⟩
  rw [enforce, settle_terms_of_closed hclosed]
  exact withTerms_self _

end Timetable

namespace Plan

/-- Enforcing the order changes nothing and reports no move exactly if every dependent is
after its prerequisites.  Without circles, enforcing it a second time changes nothing. -/
theorem enforceOrder_settles (plan : Plan) (catalog : Catalog) (capacity : Nat)
    (hle : ∀ p ∈ plan.courses, p.term ≤ plan.numTerms) :
    ((plan.enforceOrder catalog capacity).2.moved = [] ∧
        (plan.enforceOrder catalog capacity).1 = plan ↔
      (Precedence.ofCourses catalog plan.courses).Observed plan.courses) ∧
    ((Precedence.ofCourses catalog plan.courses).Acyclic →
      ((plan.enforceOrder catalog capacity).1.enforceOrder catalog capacity).1.courses
        = (plan.enforceOrder catalog capacity).1.courses) := by
  constructor
  · rw [← Timetable.enforce_idle_iff (Timetable.ofSizes plan.numTerms capacity)]
    refine and_congr_right fun _ => ⟨fun h => ?_, fun h => ?_⟩
    · exact congrArg Plan.courses h
    · exact congrArg (fun courses => { plan with courses }) h
  · intro ha
    refine Timetable.enforce_enforce _ catalog plan.courses ha fun p hp => ?_
    exact Nat.le_trans (hle p hp) (Nat.le_max_left ..)

/-- A plan of one year with the chain in its first term. -/
def chainInOneYear : Plan := { Plan.empty "plan" "Plan" 4 with courses := Timetable.chainOfFour }

/-- Two courses of the chain end up in the last term.  The second pass moves the later one
of them again, from the last term to the last term. -/
theorem enforceOrder_settles_chainInOneYear :
    (∀ p ∈ chainInOneYear.courses, p.term ≤ chainInOneYear.numTerms) ∧
    (Precedence.ofCourses (.ofCourses []) chainInOneYear.courses).Acyclic ∧
    ((chainInOneYear.enforceOrder (.ofCourses []) 5).1.enforceOrder (.ofCourses []) 5).2.moved = [4] ∧
    ((chainInOneYear.enforceOrder (.ofCourses []) 5).2.moved = [] ∧
        (chainInOneYear.enforceOrder (.ofCourses []) 5).1 = chainInOneYear ↔
      (Precedence.ofCourses (.ofCourses []) chainInOneYear.courses).Observed
        chainInOneYear.courses) ∧
    ((chainInOneYear.enforceOrder (.ofCourses []) 5).1.enforceOrder (.ofCourses []) 5).1.courses
      = (chainInOneYear.enforceOrder (.ofCourses []) 5).1.courses := by
  have hacyclic : (Precedence.ofCourses (.ofCourses []) chainInOneYear.courses).Acyclic :=
    Precedence.acyclic_of_respects (l := [0, 1, 2, 3]) (by decide)
  have h := enforceOrder_settles chainInOneYear (.ofCourses []) 5 (by decide)
  exact ⟨by decide, hacyclic, by decide, h.1, h.2 hacyclic⟩

end Plan

end StudyPlan
