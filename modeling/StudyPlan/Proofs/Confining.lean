import StudyPlan.Proofs.Moving
import StudyPlan.Proofs.Postponing

/-!
# What an edit leaves alone

Two plans are compared course by course, by number.  `Edit.Alters` says what an edit may do
to one planned course: give it another term (`Edit.Retimes`) or show another course
(`Edit.Shows`), each only where the edit names it, and nothing else.  `Confined` says this
of all numbers, and what may happen to the plan around them.

All edits but one keep the courses in their places of the list, so that they are compared
one by one (`confined_of_forall₂`).  Substituting and resetting change the one course of a number
(`forall₂_update`), removing a year goes through all of them, and enforcing the order gives
them the terms of a pass that only postpones.  A move is the one edit that lists the courses
anew.  There every course of the new list is found in the old one (`alters_of_mem_move`).
-/

namespace StudyPlan

namespace Edit

/-- What an edit may do to the term of a planned course. -/
def Retimes (p : PlannedCourse) (term : Nat) : Edit → Prop
  | .move id dest _ => term = if p.id = id then dest else p.term
  | .removeYear year =>
    if year < Term.year p.term then term + termsPerYear = p.term else term = p.term
  | .enforceOrder => p.term ≤ term
  | _ => term = p.term

/-- What an edit may do to the course that a planned course shows. -/
def Shows (catalog : Catalog) (p : PlannedCourse) (course : Course) : Edit → Prop
  | .substitute id code => if p.id = id then catalog.get? code = some course else course = p.course
  | .reset id => if p.id = id then p.placeholder = some course else course = p.course
  | _ => course = p.course

/-- What an edit may do to the number of terms.  One more year is four terms more, as far as
a word of 32 bits can tell. -/
def Resizes (before after : Nat) : Edit → Prop
  | .addYear =>
    after = Word.low32 (before + termsPerYear) ∧
      (before + termsPerYear < UInt32.size → after = before + termsPerYear)
  | .removeYear _ => after + termsPerYear = before
  | _ => after = before

/-- What an edit may do to the title. -/
def Retitles (before after : String) : Edit → Prop
  | .rename title => after = Text.trim title
  | _ => after = before

/-- What an edit may do to a planned course: `p` before it and `q` after it. -/
structure Alters (catalog : Catalog) (edit : Edit) (p q : PlannedCourse) : Prop where
  kept : q = { p with term := q.term, course := q.course }
  term : edit.Retimes p q.term
  course : edit.Shows catalog p q.course

theorem Alters.id_eq {catalog : Catalog} {edit : Edit} {p q : PlannedCourse}
    (h : edit.Alters catalog p q) : q.id = p.id := by rw [h.kept]

end Edit

namespace Plan

variable {catalog : Catalog} {edit : Edit} {plan next : Plan}

/-- A plan after an edit differs from the plan before it only in what the edit names. -/
structure Confined (catalog : Catalog) (edit : Edit) (plan next : Plan) : Prop where
  id : next.id = plan.id
  userId : next.userId = plan.userId
  nextId : next.nextId = plan.nextId
  title : edit.Retitles plan.title next.title
  numTerms : edit.Resizes plan.numTerms next.numTerms
  /-- The planned courses of a number, if there are any. -/
  courses : ∀ id, Option.Rel (edit.Alters catalog) (plan.get? id) (next.get? id)
  numbers : (plan.courses.map (·.id)).Perm (next.courses.map (·.id))
  order : (∀ id dest index, edit ≠ .move id dest index) →
    plan.courses.map (·.id) = next.courses.map (·.id)

/-! ## Courses that keep their places -/

theorem map_id_of_forall₂ {courses out : List PlannedCourse}
    (h : List.Forall₂ (edit.Alters catalog) courses out) :
    courses.map (·.id) = out.map (·.id) := by
  induction h with
  | nil => rfl
  | cons hpq _ ih => rw [List.map_cons, List.map_cons, hpq.id_eq, ih]

theorem rel_find?_of_forall₂ {courses out : List PlannedCourse} (id : Nat)
    (h : List.Forall₂ (edit.Alters catalog) courses out) :
    Option.Rel (edit.Alters catalog) (courses.find? (·.id == id)) (out.find? (·.id == id)) := by
  induction h with
  | nil => exact .none
  | @cons p q courses out hpq _ ih =>
    by_cases hid : p.id = id
    · rw [List.find?_cons_of_pos (by simpa using hid),
        List.find?_cons_of_pos (by simpa [hpq.id_eq] using hid)]
      exact .some hpq
    · rw [List.find?_cons_of_neg (by simpa using hid),
        List.find?_cons_of_neg (by simpa [hpq.id_eq] using hid)]
      exact ih

theorem confined_of_forall₂ {out : List PlannedCourse} {title : String} {numTerms : Nat}
    (h : List.Forall₂ (edit.Alters catalog) plan.courses out)
    (htitle : edit.Retitles plan.title title) (hterms : edit.Resizes plan.numTerms numTerms) :
    Confined catalog edit plan { plan with courses := out, title, numTerms } where
  id := rfl
  userId := rfl
  nextId := rfl
  title := htitle
  numTerms := hterms
  courses id := rel_find?_of_forall₂ id h
  numbers := .of_eq (map_id_of_forall₂ h)
  order _ := map_id_of_forall₂ h

theorem forall₂_update {id : Nat} {slot : PlannedCourse} {f : PlannedCourse → PlannedCourse}
    (hids : plan.Distinct) (hget : plan.get? id = some slot)
    (hslot : edit.Alters catalog slot (f slot))
    (hothers : ∀ p, p.id ≠ id → edit.Alters catalog p p) :
    List.Forall₂ (edit.Alters catalog) plan.courses (plan.update id f).courses := by
  obtain ⟨rfl, before, after, hsplit, hupdate⟩ := updateFirst_split hget
  have hne := hids.id_ne hsplit
  have hsame : ∀ part : List PlannedCourse, part ⊆ before ++ after →
      List.Forall₂ (edit.Alters catalog) part part :=
    fun part hpart => List.forall₂_same.2 fun p hp => hothers p (hne p (hpart hp))
  rw [update, hupdate, hsplit]
  refine List.rel_append (hsame before ?_) (.cons hslot (hsame after ?_))
  · exact List.subset_append_left ..
  · exact List.subset_append_right ..

theorem substitute_confined {id : Nat} {code : String} {course : Course} (hids : plan.Distinct)
    (hcourse : catalog.get? code = some course) (h : plan.substitute id course = .ok next) :
    Confined catalog (.substitute id code) plan next := by
  obtain ⟨slot, hget, -, -, rfl⟩ := substitute_eq_ok_iff.1 h
  have hid : slot.id = id := (updateFirst_split hget).1
  refine confined_of_forall₂
    (forall₂_update hids hget ⟨rfl, rfl, ?_⟩ fun p hp => ⟨rfl, rfl, ?_⟩) rfl rfl
  · show if slot.id = id then _ else _
    rwa [if_pos hid]
  · show if p.id = id then _ else _
    rw [if_neg hp]

theorem reset_confined {id : Nat} (hids : plan.Distinct) (h : plan.reset id = .ok next) :
    Confined catalog (.reset id) plan next := by
  obtain ⟨slot, course, hget, -, hplaceholder, rfl⟩ := reset_eq_ok_iff.1 h
  have hid : slot.id = id := (updateFirst_split hget).1
  refine confined_of_forall₂
    (forall₂_update hids hget ⟨rfl, rfl, ?_⟩ fun p hp => ⟨rfl, rfl, ?_⟩) rfl rfl
  · show if slot.id = id then _ else _
    rwa [if_pos hid]
  · show if p.id = id then _ else _
    rw [if_neg hp]

theorem addYear_confined : Confined catalog .addYear plan plan.addYear :=
  confined_of_forall₂ (List.forall₂_same.2 fun _ _ => ⟨rfl, rfl, rfl⟩) rfl
    ⟨rfl, Word.low32_of_lt⟩

theorem rename_confined (title : String) :
    Confined catalog (.rename title) plan (plan.rename title) :=
  confined_of_forall₂ (List.forall₂_same.2 fun _ _ => ⟨rfl, rfl, rfl⟩) rfl rfl

theorem removeYear_confined {year : Nat} (ht : plan.WellTimed)
    (h : plan.removeYear year = .ok next) : Confined catalog (.removeYear year) plan next := by
  obtain ⟨hremovable, rfl⟩ := removeYear_eq_ok_iff.1 h
  have hpos := hremovable.pos
  refine confined_of_forall₂ ?_ rfl (Nat.sub_add_cancel ht.termsPerYear_le)
  refine List.forall₂_map_right_iff.2 (List.forall₂_same.2 fun p _ => ⟨rfl, ?_, rfl⟩)
  show if year < Term.year p.term then _ else _
  by_cases hlater : year < Term.year p.term
  · rw [if_pos hlater, Term.without, if_pos hlater]
    unfold Term.year termsPerYear at hlater
    show p.term - 4 + 4 = p.term
    omega
  · rw [if_neg hlater, Term.without, if_neg hlater]

theorem enforceOrder_confined (capacity : Nat) (ht : plan.WellTimed) (hids : plan.Distinct) :
    Confined catalog .enforceOrder plan (plan.enforceOrder catalog capacity).1 := by
  have hle : ∀ p ∈ plan.courses, p.term ≤ (Timetable.ofSizes plan.numTerms capacity).numTerms :=
    fun p hp => Nat.le_trans (ht.within p hp).2 (Nat.le_max_left ..)
  refine confined_of_forall₂ ?_ rfl rfl
  refine (Timetable.enforce_postponed _ catalog hids.nodup hle).imp fun p q hpost =>
    ⟨?_, hpost.le, ?_⟩
  · rw [hpost.kept]
  · rw [hpost.kept]
    rfl

/-! ## Moving -/

theorem alters_of_mem_move {id dest index : Nat} (ht : plan.WellTimed) (hids : plan.Distinct)
    (h : plan.move id dest index = .ok next) :
    ∀ q ∈ next.courses, ∃ p ∈ plan.courses, (Edit.move id dest index).Alters catalog p q := by
  obtain ⟨p, hp, rfl, -, -, rfl⟩ := move_eq ht hids h
  have hother : ∀ term, ∀ q ∈ plan.others p.id term,
      ∃ r ∈ plan.courses, (Edit.move p.id dest index).Alters catalog r q := by
    intro term q hq
    obtain ⟨hterm, hne⟩ := List.mem_filter.1 hq
    refine ⟨q, (List.mem_filter.1 hterm).1, rfl, ?_, rfl⟩
    show q.term = if q.id = p.id then _ else _
    rw [if_neg (by simpa using hne)]
  intro q hq
  obtain ⟨i, -, hq⟩ := List.mem_flatMap.1 hq
  unfold termAfterMove at hq
  split at hq
  next hdest =>
    rcases List.mem_append.1 hq with hbefore | hrest
    · exact hother _ q (List.mem_of_mem_take hbefore)
    · rcases List.mem_cons.1 hrest with rfl | hafter
      · refine ⟨p, hp, rfl, ?_, rfl⟩
        show i + 1 = if p.id = p.id then _ else _
        rw [if_pos rfl, hdest]
      · exact hother _ q (List.mem_of_mem_drop hafter)
  next => exact hother _ q hq

/-- Every planned course comes from one of the same number. -/
theorem rel_get?_of_mem (hids : plan.Distinct)
    (hnumbers : (plan.courses.map (·.id)).Perm (next.courses.map (·.id)))
    (h : ∀ q ∈ next.courses, ∃ p ∈ plan.courses, edit.Alters catalog p q) (id : Nat) :
    Option.Rel (edit.Alters catalog) (plan.get? id) (next.get? id) := by
  cases hnext : next.get? id with
  | some q =>
    obtain ⟨p, hp, hpq⟩ := h q (List.mem_of_find?_eq_some hnext)
    have hid : q.id = id := by simpa using List.find?_some hnext
    have hplan : plan.get? id = some p := by
      rw [← hid, hpq.id_eq]
      exact hids.find?_of_mem hp
    rw [hplan]
    exact .some hpq
  | none =>
    have hplan : plan.get? id = none := by
      refine List.find?_eq_none.2 fun p hp hid => ?_
      obtain ⟨q, hq, hqid⟩ := List.mem_map.1 (hnumbers.mem_iff.1 (List.mem_map_of_mem hp))
      have hnot := List.find?_eq_none.1 hnext q hq
      rw [hqid] at hnot
      exact hnot hid
    rw [hplan]
    exact .none

theorem move_confined {id dest index : Nat} (ht : plan.WellTimed) (hids : plan.Distinct)
    (h : plan.move id dest index = .ok next) :
    Confined catalog (.move id dest index) plan next := by
  have hretimed := move_retimes h
  have hchange : Change catalog plan next := .retimed hretimed.1 hretimed.2.2.1
  have hcourses : ∀ number, Option.Rel ((Edit.move id dest index).Alters catalog)
      (plan.get? number) (next.get? number) :=
    rel_get?_of_mem hids hchange.ids_perm (alters_of_mem_move ht hids h)
  obtain ⟨p, -, -, -, -, rfl⟩ := move_eq ht hids h
  exact ⟨rfl, rfl, rfl, rfl, rfl, hcourses, hchange.ids_perm,
    fun hnot => absurd rfl (hnot id dest index)⟩

/-! ## All edits -/

/-- An edit that is not refused changes nothing but what it names. -/
theorem apply_confined (capacity : Nat) (ht : plan.WellTimed) (hids : plan.Numbered)
    (h : plan.apply catalog capacity edit = .ok next) : Confined catalog edit plan next := by
  cases edit with
  | move id dest index => exact move_confined ht hids.toDistinct h
  | substitute id code =>
    obtain ⟨course, hget, h⟩ := apply_substitute_eq_ok_iff.1 h
    exact substitute_confined hids.toDistinct hget h
  | reset id => exact reset_confined hids.toDistinct h
  | addYear =>
    cases h
    exact addYear_confined
  | removeYear year => exact removeYear_confined ht h
  | rename title =>
    cases h
    exact rename_confined title
  | enforceOrder =>
    cases h
    exact enforceOrder_confined capacity ht hids.toDistinct

/-- A plan of two years with three courses, the last of which is in the second year. -/
def twoYears : Plan :=
  { Plan.empty "plan" "Plan" 8 with
    courses := [Timetable.sampleCourse 1 "MATH 100" "", Timetable.sampleCourse 2 "MATH 101" "",
      { Timetable.sampleCourse 3 "MATH 200" "" with term := 5 }]
    nextId := 4 }

/-- The first course is moved in front of the last one.  The others stay in their terms. -/
theorem apply_confined_twoYears :
    twoYears.WellTimed ∧ twoYears.Numbered ∧
    ∃ next, twoYears.apply (.ofCourses []) 5 (.move 1 5 0) = .ok next ∧
      next.courses.map (fun p => (p.id, p.term)) = [(2, 1), (1, 5), (3, 5)] ∧
      Confined (.ofCourses []) (.move 1 5 0) twoYears next := by
  have ht : twoYears.WellTimed := ⟨by decide, by decide, by decide⟩
  have hids : twoYears.Numbered := ⟨⟨by decide, by decide⟩, by decide⟩
  exact ⟨ht, hids, _, rfl, by decide, apply_confined 5 ht hids rfl⟩

end Plan

end StudyPlan
