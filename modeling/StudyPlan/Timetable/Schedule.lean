import StudyPlan.Chance
import StudyPlan.Requirement.Basic
import StudyPlan.Timetable.Basic
import StudyPlan.Timetable.Precedence

/-!
# Giving courses their terms

`schedule` works in two passes.  The first goes through the courses in plan
order and places each from the preferred winter term of its *target year* on:
the year of its requirement, a year drawn from 2 to 4 if the requirement leaves
it open, or the course's level.  The second pass (`enforce`) goes through them
in the order of precedence and moves each course that is not after all of its
prerequisites to the first place after the latest of them.

Only terms are given; everything else about a course stays.  The report names
the courses that found no winter term, and those that the second pass moved.
-/

namespace StudyPlan

/-- What happened to the courses. -/
structure ScheduleReport where
  /-- The numbers of the courses that found no winter term. -/
  clamped : List Nat := []
  /-- The numbers of the courses that were moved after their prerequisites. -/
  moved : List Nat := []
deriving DecidableEq, Repr, Inhabited

namespace Timetable

open Chance (Source)

/-! ## The first pass -/

/-- A year kept within the timetable. -/
def clampYear (t : Timetable) (year : Nat) : Nat := Max.max 1 (Min.min year t.numYears)

/-- The year that a planned course is meant for. -/
def targetYear (t : Timetable) (p : PlannedCourse) (r : Option Requirement) (s : Source) :
    Nat × Source :=
  match r with
  | some r =>
    if r.isFlexible then
      let (v, s) := s.below32 3
      (t.clampYear (2 + v), s)
    else if 0 < r.year then (t.clampYear r.year.toNat, s)
    else (t.clampYear (p.course.level?.getD 1), s)
  | none => (t.clampYear (p.course.level?.getD 1), s)

/-- The preferred winter term of a year. -/
def baseTerm (year : Nat) (c : Course) : Nat :=
  let before := (year - 1) * termsPerYear
  if c.offerings.winter1 then before + 1
  else if c.offerings.winter2 then before + 2
  else before + 1

/-- The requirement of a planned course: the last one of its name. -/
def requirementOf (requirements : List Requirement) (p : PlannedCourse) : Option Requirement :=
  p.requirementId.bind fun id => requirements.reverse.find? (·.id == id)

/-- The first pass under way. -/
structure Placing where
  /-- The terms of the courses so far. -/
  terms : List Nat
  /-- How full the terms are. -/
  loads : Loads
  /-- The numbers of those that overflowed. -/
  clamped : List Nat
  /-- The random words left. -/
  source : Source

/-- The first pass after one more course. -/
def placeNext (t : Timetable) (requirements : List Requirement) (w : Placing)
    (p : PlannedCourse) : Placing :=
  let (year, source) := t.targetYear p (requirementOf requirements p) w.source
  let spot := t.place w.loads p.course (baseTerm year p.course)
  { terms := w.terms ++ [spot.term]
    loads := w.loads.add spot.term
    clamped := if spot.overflows then w.clamped ++ [p.id] else w.clamped
    source }

/-- The first pass. -/
def placeAll (t : Timetable) (requirements : List Requirement) (courses : List PlannedCourse)
    (source : Source) : Placing :=
  courses.foldl (t.placeNext requirements) ⟨[], {}, [], source⟩

/-! ## The second pass -/

/-- The second pass under way. -/
structure Settling where
  /-- The terms of all courses, by position. -/
  terms : List Nat
  /-- How full the terms are. -/
  loads : Loads
  /-- What happened so far. -/
  report : ScheduleReport

/-- Where a course goes that has to come after a term. -/
def placeAfter (t : Timetable) (others : Loads) (c : Course) (latest : Nat) : Spot :=
  if t.numTerms ≤ latest then ⟨t.numTerms, true⟩ else t.place others c (latest + 1)

/-- The latest term of the prerequisites of a position. -/
def latestBefore (g : Precedence) (terms : List Nat) (i : Nat) : Option Nat :=
  ((g.prerequisitesOf i).filterMap (terms[·]?)).max?

/-- The second pass after the planned course of a position is moved to the first
place after a term.  It leaves its old term before a place is looked for. -/
def moveAfter (t : Timetable) (w : Settling) (i : Nat) (p : PlannedCourse) (old latest : Nat) :
    Settling :=
  let others := w.loads.remove old
  let spot := t.placeAfter others p.course latest
  { terms := w.terms.set i spot.term
    loads := others.add spot.term
    report :=
      { clamped := if spot.overflows then w.report.clamped ++ [p.id] else w.report.clamped
        moved := w.report.moved ++ [p.id] } }

/-- The second pass after one more position. -/
def settleNext (t : Timetable) (g : Precedence) (courses : List PlannedCourse) (w : Settling)
    (i : Nat) : Settling :=
  match latestBefore g w.terms i, courses[i]?, w.terms[i]? with
  | some latest, some p, some old => if latest < old then w else t.moveAfter w i p old latest
  | _, _, _ => w

/-- The second pass over terms that are given, with their loads. -/
def settle (t : Timetable) (catalog : Catalog) (courses : List PlannedCourse) (terms : List Nat)
    (loads : Loads) : Settling :=
  let g := Precedence.ofCourses catalog courses
  g.order.foldl (t.settleNext g courses) ⟨terms, loads, {}⟩

/-! ## Both passes -/

/-- The courses with other terms. -/
def withTerms (courses : List PlannedCourse) (terms : List Nat) : List PlannedCourse :=
  List.zipWith (fun p term => { p with term }) courses terms

/-- The courses with every dependent moved after its prerequisites. -/
def enforce (t : Timetable) (catalog : Catalog) (courses : List PlannedCourse) :
    List PlannedCourse × ScheduleReport :=
  let terms := courses.map (·.term)
  let w := t.settle catalog courses terms (Loads.ofTerms terms)
  (withTerms courses w.terms, w.report)

/-- The numbers of the first list and those of the second that are not among them. -/
def mergeIds (ids more : List Nat) : List Nat :=
  more.foldl (fun ids id => if ids.contains id then ids else ids ++ [id]) ids

/-- The courses with new terms. -/
def schedule (t : Timetable) (catalog : Catalog) (requirements : List Requirement)
    (courses : List PlannedCourse) (source : Source) :
    List PlannedCourse × ScheduleReport × Source :=
  let w := t.placeAll requirements courses source
  let s := t.settle catalog courses w.terms w.loads
  (withTerms courses s.terms,
    { clamped := mergeIds w.clamped s.report.clamped, moved := s.report.moved }, w.source)

end Timetable

end StudyPlan
