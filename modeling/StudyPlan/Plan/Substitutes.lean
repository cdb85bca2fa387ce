import StudyPlan.Error
import StudyPlan.Plan.Basic
import StudyPlan.Text.Similarity

/-!
# Substitutes for a slot

What may be shown in an elective slot: the courses of its pool whose codes no
other planned course shows.  A choice slot lists all of them, or those that
match a search.  A search slot lists nothing without a search of more than three
characters.

A course matches a search if its code or its name contains the search or is very
similar to it, all in small letters.  The courses found are listed by
similarity, the most similar first, and by code among equals.
-/

namespace StudyPlan

open Text

namespace Plan

/-- A search has to have more characters than this in a search slot. -/
def minSearch : Nat := 3

/-- From this similarity on a text matches. -/
def matchFrom : Binary64 := .ofRatio false 85 100

/-- How similar a course is to a search: its code or its name, whichever is more so. -/
def searchScore (search : String) (c : Course) : Binary64 :=
  (similarity search.toList (lower c.code).toList).max
    (similarity search.toList (lower c.name).toList)

/-- A course matches a search. -/
def matchesSearch (search : String) (c : Course) : Bool :=
  contains (lower c.code) search || contains (lower c.name) search ||
    matchFrom.le (searchScore search c)

/-- Courses by similarity to a search, then by code. -/
def bySimilarity (search : String) (courses : List Course) : List Course :=
  let scored := courses.map fun c => (searchScore search c, c)
  (scored.mergeSort fun (x, a) (y, b) =>
    if y.lt x then true else if x.lt y then false else decide (a.code ≤ b.code)).map (·.2)

/-- The courses of a slot's pool that no other planned course shows. -/
def available (plan : Plan) (slot : PlannedCourse) : List Course :=
  slot.pool.filter fun c => !plan.holdsCode c.code (some slot.id)

/-- A search without blanks around it and in small letters; `none` if nothing is left. -/
def cleanSearch (search : Option String) : Option String :=
  (search.map fun s => lower (trim s)).filter (!·.isEmpty)

/-- What may be shown in an elective slot. -/
def substitutes (plan : Plan) (id : Nat) (search : Option String) :
    Except PlanningError (List Course) :=
  match plan.get? id with
  | none => .error (.notPlanned id)
  | some slot =>
    if !slot.isElective then .error (.notElective id)
    else
      let free := plan.available slot
      match cleanSearch search with
      | none => .ok (if slot.electiveKind = some .choice then free else [])
      | some q =>
        if slot.electiveKind = some .choice ∨ minSearch < q.length then
          .ok (bySimilarity q (free.filter (matchesSearch q)))
        else .ok []

end Plan

end StudyPlan
