import StudyPlan.CodeMap
import StudyPlan.Course.Json

/-!
# The catalogue

The courses in the order in which their codes first came, one course for each
code.  A later course of the same code takes the place of the earlier one.  The
generic elective is always there: if no course has its code, a placeholder for
it comes last.

The place of each code is kept beside the courses, and a course is looked up by
its place.  The two agree at any time (`Placed`): a code is kept with a place
exactly if the course at that place has it.  So no two courses share a code.

What each course asks for is gathered once, when the course is put in, and kept
under its code.  Nothing is kept for a course that asks for nothing, and what was
kept for a course whose place it takes goes with that course.
-/

namespace StudyPlan

namespace Catalog

/-- The codes of courses, in order. -/
def codes (courses : List Course) : List String := courses.map (·.code)

/-- A code is kept with a place exactly if the course at that place has it. -/
def Placed (courses : List Course) (places : CodeMap Nat) : Prop :=
  ∀ code i, places.get? code = some i ↔ (codes courses)[i]? = some code

end Catalog

/-- The courses that can be planned. -/
structure Catalog where
  /-- The courses, one for each code. -/
  courses : List Course
  /-- The places of the courses by code. -/
  places : CodeMap Nat
  /-- The codes that courses ask for, by the code of the course. -/
  index : CodeMap CodeSet
  /-- The places are those of the courses. -/
  placed : Catalog.Placed courses places
deriving DecidableEq, Repr

namespace Catalog

/-- The code of the generic elective. -/
def genericCode : String := "ELEC"

/-- The generic elective. -/
def genericElective : Course :=
  { code := genericCode, name := "Elective", credits := 3, offerings := .always,
    isPlaceholder := true }

/-! ## Putting courses in -/

/-- The courses with one in the place of its code, or last. -/
def putCourse (course : Course) (courses : List Course) (places : CodeMap Nat) : List Course :=
  match places.get? course.code with
  | some i => courses.set i course
  | none => courses ++ [course]

/-- The places with one for the code of a course that is put in. -/
def putPlace (course : Course) (courses : List Course) (places : CodeMap Nat) : CodeMap Nat :=
  match places.get? course.code with
  | some _ => places
  | none => places.set course.code courses.length

theorem codes_putCourse {courses : List Course} {places : CodeMap Nat} (h : Placed courses places)
    (course : Course) :
    codes (putCourse course courses places)
      = if (places.get? course.code).isSome then codes courses
        else codes courses ++ [course.code] := by
  unfold putCourse
  cases hplace : places.get? course.code with
  | some i =>
    obtain ⟨hi, hcode⟩ := List.getElem?_eq_some_iff.1 ((h course.code i).1 hplace)
    have hset : (codes courses).set i (codes courses)[i] = codes courses := List.set_getElem_self hi
    rw [hcode] at hset
    exact List.map_set.trans hset
  | none => exact List.map_append

/-- Places stay those of the courses. -/
theorem Placed.put {courses : List Course} {places : CodeMap Nat} (h : Placed courses places)
    (course : Course) :
    Placed (putCourse course courses places) (putPlace course courses places) := by
  intro code i
  rw [codes_putCourse h]
  unfold putPlace
  cases hplace : places.get? course.code with
  | some j => exact h code i
  | none =>
    have hnew : ∀ j, (codes courses)[j]? ≠ some course.code := fun j hj => by
      rw [← h, hplace] at hj
      cases hj
    have hlength : (codes courses).length = courses.length := List.length_map ..
    simp only [Option.isSome_none, Bool.false_eq_true, if_false]
    rw [CodeMap.get?_set, List.getElem?_append, hlength]
    by_cases hcode : code = course.code
    · subst hcode
      rw [if_pos rfl, Option.some.injEq]
      constructor
      · rintro rfl
        rw [if_neg (Nat.lt_irrefl _), Nat.sub_self]
        rfl
      · intro hlast
        split at hlast
        · exact absurd hlast (hnew i)
        next hge =>
          have hlt := (List.getElem?_eq_some_iff.1 hlast).1
          rw [List.length_singleton] at hlt
          omega
    · rw [if_neg hcode, h]
      split
      · rfl
      next hge =>
        have hlast : [course.code][i - courses.length]? ≠ some code := fun hlast =>
          hcode (List.mem_singleton.1 (List.mem_of_getElem? hlast))
        rw [List.getElem?_eq_none (hlength ▸ Nat.le_of_not_lt hge)]
        exact iff_of_false (fun hnone => nomatch hnone) hlast

/-- The catalogue without courses. -/
def empty : Catalog := ⟨[], [], [], fun _ _ => by simp [CodeMap.get?, codes]⟩

instance : Inhabited Catalog := ⟨empty⟩

/-- The catalogue with a course in the place of the one with its code, or last. -/
def insert (catalog : Catalog) (course : Course) : Catalog where
  courses := putCourse course catalog.courses catalog.places
  places := putPlace course catalog.courses catalog.places
  index :=
    if course.prerequisiteCodes.isEmpty then catalog.index.erase course.code
    else catalog.index.set course.code course.prerequisiteCodes
  placed := catalog.placed.put course

/-- The catalogue with the generic elective in it. -/
def withGeneric (catalog : Catalog) : Catalog :=
  if (catalog.places.get? genericCode).isSome then catalog else catalog.insert genericElective

/-- The catalogue of a list of courses. -/
def ofCourses (courses : List Course) : Catalog :=
  withGeneric (courses.foldl (fun catalog c => catalog.insert c.normalized) empty)

/-- The catalogue that a data text spells. -/
def ofText? (s : String) : Option Catalog := (Course.listOfText? s).map ofCourses

/-! ## Looking courses up -/

/-- The course of a code in any spelling. -/
def get? (catalog : Catalog) (code : String) : Option Course :=
  (catalog.places.get? (Code.normalize code)).bind (catalog.courses[·]?)

/-- The courses that are no placeholders. -/
def concrete (catalog : Catalog) : List Course := catalog.courses.filter (!·.isPlaceholder)

/-- The placeholder for any elective. -/
def generic (catalog : Catalog) : Course := (catalog.get? genericCode).getD genericElective

/-- The courses of those codes that there are. -/
def select (catalog : Catalog) (codes : List String) : List Course := codes.filterMap catalog.get?

/-- The codes that the course of a code asks for, if it asks for any. -/
def prerequisitesOf? (catalog : Catalog) (code : String) : Option CodeSet :=
  catalog.index.get? (Code.normalize code)

end Catalog

end StudyPlan
