import StudyPlan.Proofs.Capacity

/-!
# Courses in other terms

Most of what happens to a plan moves courses about: they get other terms, and the
list may come into another order.  `Retimed` says that nothing else has happened.
It compares two lists of planned courses without their terms, up to the order.

What does not look at terms is the same for both lists: what is gathered from each
course (`Retimed.map`), what holds of every course (`Retimed.forall_mem`), of any two
of them (`Retimed.pairwise`), or of a number of them (`Retimed.countP`).

Both passes of a timetable only retime (`schedule_retimed`, `enforce_retimed`), and
all their terms are terms of the timetable (`schedule_within`, `enforce_within`).
-/

namespace StudyPlan

namespace PlannedCourse

/-- The planned course, wherever it is placed. -/
def untimed (p : PlannedCourse) : PlannedCourse := { p with term := 0 }

end PlannedCourse

/-- The same planned courses, perhaps in other terms and in another order. -/
def Retimed (courses out : List PlannedCourse) : Prop :=
  (courses.map PlannedCourse.untimed).Perm (out.map PlannedCourse.untimed)

namespace Retimed

variable {courses mid out : List PlannedCourse}

theorem of_eq (h : courses.map PlannedCourse.untimed = out.map PlannedCourse.untimed) :
    Retimed courses out := List.Perm.of_eq h

theorem trans (h : Retimed courses mid) (h' : Retimed mid out) : Retimed courses out :=
  List.Perm.trans h h'

/-! ## What does not look at terms -/

theorem map {α : Type} {f : PlannedCourse → α} (h : Retimed courses out)
    (hf : ∀ p, f p.untimed = f p) : (courses.map f).Perm (out.map f) := by
  have hcomp : f ∘ PlannedCourse.untimed = f := funext hf
  have hmap := List.Perm.map f h
  rwa [List.map_map, List.map_map, hcomp] at hmap

theorem length_eq (h : Retimed courses out) : courses.length = out.length := by
  simpa using List.Perm.length_eq h

theorem countP {f : PlannedCourse → Bool} (h : Retimed courses out)
    (hf : ∀ p, f p.untimed = f p) : courses.countP f = out.countP f := by
  have hcount := (h.map hf).countP_eq id
  rwa [List.countP_map, List.countP_map] at hcount

theorem filter {f : PlannedCourse → Bool} (h : Retimed courses out)
    (hf : ∀ p, f p.untimed = f p) : Retimed (courses.filter f) (out.filter f) := by
  have hcomp : f ∘ PlannedCourse.untimed = f := funext hf
  have hfilter := List.Perm.filter f h
  rwa [List.filter_map, List.filter_map, hcomp] at hfilter

theorem exists_mem (h : Retimed courses out) {p : PlannedCourse} (hp : p ∈ courses) :
    ∃ q ∈ out, q.untimed = p.untimed :=
  List.mem_map.1 ((List.Perm.mem_iff h).1 (List.mem_map_of_mem hp))

theorem symm (h : Retimed courses out) : Retimed out courses := List.Perm.symm h

theorem forall_mem {P : PlannedCourse → Prop} (h : Retimed courses out)
    (hP : ∀ p, P p.untimed ↔ P p) (hall : ∀ p ∈ courses, P p) : ∀ p ∈ out, P p := by
  intro p hp
  obtain ⟨q, hq, heq⟩ := h.symm.exists_mem hp
  have hq' : P q.untimed := (hP q).2 (hall q hq)
  rw [heq] at hq'
  exact (hP p).1 hq'

theorem pairwise {R : PlannedCourse → PlannedCourse → Prop} (h : Retimed courses out)
    (hsymm : ∀ {p q}, R p q → R q p) (hR : ∀ p q, R p.untimed q.untimed ↔ R p q)
    (hall : courses.Pairwise R) : out.Pairwise R := by
  have huntimed : (courses.map PlannedCourse.untimed).Pairwise R :=
    List.pairwise_map.2 (hall.imp fun hpq => (hR _ _).2 hpq)
  have hout := (List.Perm.pairwise_iff hsymm h).1 huntimed
  exact (List.pairwise_map.1 hout).imp fun hpq => (hR _ _).1 hpq

end Retimed

/-! ## Timetables -/

namespace Timetable

variable {t : Timetable} {courses : List PlannedCourse} {terms : List Nat}

theorem map_untimed_withTerms :
    ∀ {courses : List PlannedCourse} {terms : List Nat}, terms.length = courses.length →
      courses.map PlannedCourse.untimed = (withTerms courses terms).map PlannedCourse.untimed
  | [], [], _ => rfl
  | p :: _, _ :: _, h => congrArg (p.untimed :: ·) (map_untimed_withTerms (Nat.succ.inj h))

theorem schedule_retimed (t : Timetable) (catalog : Catalog) (requirements : List Requirement)
    (courses : List PlannedCourse) (source : Chance.Source) :
    Retimed courses (t.schedule catalog requirements courses source).1 :=
  .of_eq <| map_untimed_withTerms <|
    (length_settle ..).trans (length_placeAll t requirements courses source)

theorem length_enforce_terms (t : Timetable) (catalog : Catalog) (courses : List PlannedCourse) :
    (t.settle catalog courses (courses.map (·.term))
      (Loads.ofTerms (courses.map (·.term)))).terms.length = courses.length :=
  (length_settle ..).trans (List.length_map ..)

theorem enforce_retimed (t : Timetable) (catalog : Catalog) (courses : List PlannedCourse) :
    Retimed courses (t.enforce catalog courses).1 :=
  .of_eq <| map_untimed_withTerms <| length_enforce_terms t catalog courses

/-- The terms of courses that are given the terms of a pass. -/
theorem Fits.withTerms {most : Nat → Nat} {loads : Loads} (h : t.Fits most terms loads)
    (hlen : terms.length = courses.length) :
    ∀ p ∈ Timetable.withTerms courses terms, 1 ≤ p.term ∧ p.term ≤ t.numTerms := by
  intro p hp
  have hterm : p.term ∈ (Timetable.withTerms courses terms).map (·.term) := List.mem_map_of_mem hp
  rw [map_term_withTerms hlen] at hterm
  exact h.within p.term hterm

theorem schedule_within (ht : 1 ≤ t.numTerms) (catalog : Catalog) (requirements : List Requirement)
    (courses : List PlannedCourse) (source : Chance.Source) :
    ∀ p ∈ (t.schedule catalog requirements courses source).1,
      1 ≤ p.term ∧ p.term ≤ t.numTerms :=
  ((fits_placeAll requirements courses source ht).settle ht (fun _ => Nat.le_refl _) catalog
    courses).withTerms <|
    (length_settle ..).trans (length_placeAll t requirements courses source)

/-- Courses in their terms, however full these are. -/
theorem fits_ofTerms (t : Timetable) (h : ∀ s ∈ terms, 1 ≤ s ∧ s ≤ t.numTerms) :
    t.Fits (fun s => Max.max t.capacity (terms.count s)) terms (Loads.ofTerms terms) where
  counts := Loads.counts_ofTerms terms
  within := h
  room _ _ := Nat.le_max_right ..

/-- The second pass over courses that have terms gets no term fuller than it was and
than there is room. -/
theorem fits_enforce (ht : 1 ≤ t.numTerms) (catalog : Catalog)
    (h : ∀ p ∈ courses, 1 ≤ p.term ∧ p.term ≤ t.numTerms) :
    t.Fits (fun s => Max.max t.capacity ((courses.map (·.term)).count s))
      (t.settle catalog courses (courses.map (·.term)) (Loads.ofTerms (courses.map (·.term)))).terms
      (t.settle catalog courses (courses.map (·.term))
        (Loads.ofTerms (courses.map (·.term)))).loads := by
  have hterms : ∀ s ∈ courses.map (·.term), 1 ≤ s ∧ s ≤ t.numTerms := by
    intro s hs
    obtain ⟨p, hp, rfl⟩ := List.mem_map.1 hs
    exact h p hp
  exact (t.fits_ofTerms hterms).settle ht (fun _ => Nat.le_max_left ..) catalog courses

theorem enforce_within (ht : 1 ≤ t.numTerms) (catalog : Catalog)
    (h : ∀ p ∈ courses, 1 ≤ p.term ∧ p.term ≤ t.numTerms) :
    ∀ p ∈ (t.enforce catalog courses).1, 1 ≤ p.term ∧ p.term ≤ t.numTerms :=
  (fits_enforce ht catalog h).withTerms (length_enforce_terms t catalog courses)

end Timetable

end StudyPlan
