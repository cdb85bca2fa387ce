import StudyPlan.Proofs.Postponing

/-!
# The fate of a course in the second pass

The second pass comes to every position once.  Before and after that it leaves the course of
the position alone, and as numbers tell the courses apart, nothing is reported of it
(`foldl_settleNext_alike`).  So a course has one of two fates.  It *stays*: then it is after
all of its prerequisites, and it is in neither list of the report.  Or it *moves* to a place
after the latest of them: then it is in the list of those that were moved, and in the other
list if the place is an overflow.

What a course does depends on the terms of its prerequisites when the pass comes to it.
`settle_fate` tells which terms these are: the new ones of the courses that are earlier in
the order, and the old ones of the others.
-/

namespace StudyPlan

namespace Timetable

variable {t : Timetable} {g : Precedence} {catalog : Catalog} {courses : List PlannedCourse}
  {w w' : Settling} {p : PlannedCourse} {i : Nat} {terms : List Nat} {loads : Loads}

/-! ## Courses that are left alone -/

/-- A course is in the same term, and the same is reported of it. -/
structure Alike (p : PlannedCourse) (i : Nat) (w w' : Settling) : Prop where
  term : w'.terms[i]? = w.terms[i]?
  moved : p.id ∈ w'.report.moved ↔ p.id ∈ w.report.moved
  clamped : p.id ∈ w'.report.clamped ↔ p.id ∈ w.report.clamped

theorem Alike.refl (w : Settling) : Alike p i w w := ⟨rfl, Iff.rfl, Iff.rfl⟩

theorem Alike.trans {w'' : Settling} (h : Alike p i w w') (h' : Alike p i w' w'') :
    Alike p i w w'' :=
  ⟨h'.term.trans h.term, h'.moved.trans h.moved, h'.clamped.trans h.clamped⟩

theorem settleNext_alike (hids : (courses.map (·.id)).Nodup) (hp : courses[i]? = some p) {k : Nat}
    (hk : k ≠ i) (w : Settling) : Alike p i w (t.settleNext g courses w k) := by
  rcases settleNext_cases t g courses w k with ⟨heq, -⟩ | ⟨q, old, latest, hq, -, -, -, heq⟩
  · rw [heq]
    exact .refl w
  · have hne : p.id ≠ q.id := fun hid => hk (eq_of_ids hids hp hq hid).symm
    refine ⟨settleNext_getElem? hk, ?_, ?_⟩
    · rw [heq, moveAfter]
      simp [hne]
    · rw [heq, moveAfter, mem_clampIf_iff]
      simp [hne]

theorem foldl_settleNext_alike (hids : (courses.map (·.id)).Nodup) (hp : courses[i]? = some p)
    {order : List Nat} (hi : i ∉ order) (w : Settling) :
    Alike p i w (order.foldl (t.settleNext g courses) w) :=
  List.foldlRecOn order _ (motive := Alike p i w) (.refl w) fun w' h _ hk =>
    h.trans (settleNext_alike hids hp (fun hki => hi (hki ▸ hk)) w')

theorem foldl_settleNext_getElem? {order : List Nat} {k : Nat} (hk : k ∉ order) (w : Settling) :
    (order.foldl (t.settleNext g courses) w).terms[k]? = w.terms[k]? :=
  List.foldlRecOn order _ (motive := fun w' : Settling => w'.terms[k]? = w.terms[k]?) rfl
    fun _ h _ hj => (settleNext_getElem? (ne_of_mem_of_not_mem hj hk)).trans h

/-- Only courses are reported. -/
theorem settle_reported {id : Nat}
    (h : id ∈ (t.settle catalog courses terms loads).report.moved ∨
      id ∈ (t.settle catalog courses terms loads).report.clamped) :
    ∃ (i : Nat) (p : PlannedCourse), courses[i]? = some p ∧ p.id = id := by
  revert h
  refine List.foldlRecOn _ _
    (motive := fun w : Settling => id ∈ w.report.moved ∨ id ∈ w.report.clamped → _)
    (fun h => by simp at h) fun w ih k _ h => ?_
  rcases settleNext_cases t (.ofCourses catalog courses) courses w k with
    ⟨heq, -⟩ | ⟨p, old, latest, hp, -, -, -, heq⟩
  · exact ih (heq ▸ h)
  · rw [heq, moveAfter, mem_clampIf_iff, List.mem_append, List.mem_singleton] at h
    rcases h with (hmoved | rfl) | hclamped | ⟨-, rfl⟩
    · exact ih (Or.inl hmoved)
    · exact ⟨k, p, hp, rfl⟩
    · exact ih (Or.inr hclamped)
    · exact ⟨k, p, hp, rfl⟩

/-! ## The fate of a course -/

/-- What the second pass does to the course of a position, with its old and its new term.  The
terms of all courses are those that the pass has found when it came to the position. -/
inductive Fate (t : Timetable) (g : Precedence) (report : ScheduleReport) (found : List Nat)
    (p : PlannedCourse) (i old : Nat) : Nat → Prop
  /-- It is after its prerequisites. -/
  | stays (hafter : ∀ latest, latestBefore g found i = some latest → latest < old)
      (hmoved : p.id ∉ report.moved) (hclamped : p.id ∉ report.clamped) :
      Fate t g report found p i old old
  /-- It is not after the latest of them, and gets a place there. -/
  | moves {others : Loads} {latest : Nat} (hlatest : latestBefore g found i = some latest)
      (hle : old ≤ latest) (hmoved : p.id ∈ report.moved)
      (hclamped : p.id ∈ report.clamped ↔
        (t.placeAfter others p.course latest).overflows = true) :
      Fate t g report found p i old (t.placeAfter others p.course latest).term

/-- The pass at the position of a course of which nothing is reported yet. -/
theorem settleNext_fate {old : Nat} (hp : courses[i]? = some p) (hold : w.terms[i]? = some old)
    (hmoved : p.id ∉ w.report.moved) (hclamped : p.id ∉ w.report.clamped) :
    ∃ new, (t.settleNext g courses w i).terms[i]? = some new ∧
      t.Fate g (t.settleNext g courses w i).report w.terms p i old new := by
  rcases settleNext_cases t g courses w i with
    ⟨heq, hstay⟩ | ⟨q, old', latest, hq, hold', hlatest, hle, heq⟩
  · rw [heq]
    exact ⟨old, hold, .stays (fun latest => hstay p old latest hp hold) hmoved hclamped⟩
  · obtain rfl : p = q := Option.some.inj (hp.symm.trans hq)
    obtain rfl : old = old' := Option.some.inj (hold.symm.trans hold')
    rw [heq, moveAfter]
    refine ⟨_, List.getElem?_set_self (List.getElem?_eq_some_iff.1 hold).1, ?_⟩
    refine .moves hlatest hle (by simp) ?_
    rw [mem_clampIf_iff]
    simp [hclamped]

theorem Fate.congr {report more : ScheduleReport} {found : List Nat} {old new : Nat}
    (h : t.Fate g report found p i old new) (hmoved : p.id ∈ more.moved ↔ p.id ∈ report.moved)
    (hclamped : p.id ∈ more.clamped ↔ p.id ∈ report.clamped) :
    t.Fate g more found p i old new := by
  cases h with
  | stays hafter hnot hnot' =>
    exact .stays hafter (fun h => hnot (hmoved.1 h)) fun h => hnot' (hclamped.1 h)
  | moves hlatest hle hyes hover =>
    exact .moves hlatest hle (hmoved.2 hyes) (hclamped.trans hover)

/-- A course in a pass that comes to it once.  The courses before it have their new terms by
then, and the others their old ones. -/
theorem foldl_settleNext_fate (hids : (courses.map (·.id)).Nodup) (hp : courses[i]? = some p)
    {old : Nat} (hold : w.terms[i]? = some old) (hmoved : p.id ∉ w.report.moved)
    (hclamped : p.id ∉ w.report.clamped) {before after : List Nat}
    (hnodup : (before ++ i :: after).Nodup)
    (hw' : (before ++ i :: after).foldl (t.settleNext g courses) w = w') :
    ∃ found new, w'.terms[i]? = some new ∧ t.Fate g w'.report found p i old new ∧
      (∀ k ∈ before, found[k]? = w'.terms[k]?) ∧ ∀ k, k ∉ before → found[k]? = w.terms[k]? := by
  obtain ⟨-, hcons, hdisjoint⟩ := List.nodup_append.1 hnodup
  have hbefore : i ∉ before := fun h => hdisjoint i h i (List.mem_cons_self ..) rfl
  have hafter : i ∉ after := (List.nodup_cons.1 hcons).1
  rw [List.foldl_append, List.foldl_cons] at hw'
  have hstart := foldl_settleNext_alike (t := t) (g := g) hids hp hbefore w
  obtain ⟨new, hnew, hfate⟩ := settleNext_fate (t := t) (g := g) hp (hstart.term.trans hold)
    (fun h => hmoved (hstart.moved.1 h)) fun h => hclamped (hstart.clamped.1 h)
  have hrest := hw' ▸ foldl_settleNext_alike (t := t) (g := g) hids hp hafter _
  refine ⟨_, new, hrest.term.trans hnew, hfate.congr hrest.moved hrest.clamped,
    fun k hk => ?_, fun k hk => foldl_settleNext_getElem? hk w⟩
  have hki : i ≠ k := fun hik => hbefore (hik ▸ hk)
  have hka : k ∉ after := fun h => hdisjoint k hk k (List.mem_cons_of_mem _ h) rfl
  rw [← hw', foldl_settleNext_getElem? hka, settleNext_getElem? hki]

theorem idxOf_lt_iff_mem {before after : List Nat} {k : Nat} (hi : i ∉ before) :
    (before ++ i :: after).idxOf k < (before ++ i :: after).idxOf i ↔ k ∈ before := by
  rw [List.idxOf_append_of_notMem hi, List.idxOf_cons_self, Nat.add_zero]
  by_cases hk : k ∈ before
  · rw [List.idxOf_append_of_mem hk]
    exact iff_of_true (List.idxOf_lt_length_of_mem hk) hk
  · rw [List.idxOf_append_of_notMem hk]
    exact iff_of_false (Nat.not_lt.2 (Nat.le_add_right _ _)) hk

/-- Every course has its fate in the second pass.  When the pass comes to it, the courses that
are earlier in the order have their new terms, and the others their old ones. -/
theorem settle_fate (t : Timetable) (catalog : Catalog) (loads : Loads)
    (hids : (courses.map (·.id)).Nodup) (hp : courses[i]? = some p) {old : Nat}
    (hold : terms[i]? = some old) :
    ∃ found new, (t.settle catalog courses terms loads).terms[i]? = some new ∧
      t.Fate (.ofCourses catalog courses) (t.settle catalog courses terms loads).report found p i
        old new ∧
      ∀ k, found[k]? =
        if (Precedence.ofCourses catalog courses).order.idxOf k
            < (Precedence.ofCourses catalog courses).order.idxOf i
        then (t.settle catalog courses terms loads).terms[k]? else terms[k]? := by
  have hb := Precedence.ofCourses_bounded catalog courses
  have hmem : i ∈ (Precedence.ofCourses catalog courses).order :=
    (Precedence.order_perm hb).mem_iff.2 (List.mem_range.2 (List.getElem?_eq_some_iff.1 hp).1)
  have hnodup := Precedence.order_nodup hb
  obtain ⟨before, after, heq⟩ := List.append_of_mem hmem
  rw [heq] at hnodup
  have hbefore : i ∉ before := fun h =>
    (List.nodup_append.1 hnodup).2.2 i h i (List.mem_cons_self ..) rfl
  have hpass : (before ++ i :: after).foldl
      (t.settleNext (.ofCourses catalog courses) courses) ⟨terms, loads, {}⟩
        = t.settle catalog courses terms loads := by
    rw [settle, heq]
  obtain ⟨found, new, hnew, hfate, hearlier, hlater⟩ :=
    foldl_settleNext_fate hids hp hold List.not_mem_nil List.not_mem_nil hnodup hpass
  refine ⟨found, new, hnew, hfate, fun k => ?_⟩
  rw [heq]
  by_cases hk : k ∈ before
  · rw [if_pos ((idxOf_lt_iff_mem hbefore).2 hk)]
    exact hearlier k hk
  · rw [if_neg (mt (idxOf_lt_iff_mem hbefore).1 hk)]
    exact hlater k hk

end Timetable

end StudyPlan
