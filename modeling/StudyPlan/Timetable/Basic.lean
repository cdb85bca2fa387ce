import StudyPlan.Plan.Basic
import StudyPlan.Timetable.Loads

/-!
# Room in a timetable

A timetable has a number of terms and room for a number of courses in each.  A
term has room while its load is below that number.

A course is placed from a term on.  It goes into the first winter term with room
in which it is offered; if there is none, into the first winter term with room;
if there is none either, it *overflows* into the last term with room, or into
the last term of all.
-/

namespace StudyPlan

/-- A number of terms with room for courses. -/
structure Timetable where
  /-- The number of terms. -/
  numTerms : Nat
  /-- How many courses a term has room for. -/
  capacity : Nat
deriving DecidableEq, Repr

/-- Where a course is placed. -/
structure Spot where
  /-- The term. -/
  term : Nat
  /-- There was no winter term with room. -/
  overflows : Bool
deriving DecidableEq, Repr

namespace Timetable

/-- A timetable of at least one year with room for at least one course in each term. -/
def ofSizes (numTerms capacity : Nat) : Timetable :=
  ⟨Max.max numTerms termsPerYear, Max.max capacity 1⟩

/-- The number of years, at least one. -/
def numYears (t : Timetable) : Nat := Max.max (t.numTerms / termsPerYear) 1

/-! ## Searching terms -/

/-- The first of `count` terms from a term on that has a property. -/
def firstFrom (p : Nat → Bool) : (count term : Nat) → Option Nat
  | 0, _ => none
  | count + 1, term => if p term then some term else firstFrom p count (term + 1)

/-- The last of `count` terms from a term on that has a property. -/
def lastFrom (p : Nat → Bool) : (count term : Nat) → Option Nat
  | 0, _ => none
  | count + 1, term => if p (term + count) then some (term + count) else lastFrom p count term

/-- The number of terms from a term on. -/
def termsFrom (t : Timetable) (term : Nat) : Nat := t.numTerms + 1 - term

/-- A term has room. -/
def hasRoom (t : Timetable) (loads : Loads) (term : Nat) : Bool :=
  decide (loads.get term < t.capacity)

/-! ## Placing -/

/-- The first winter term with room in which a course is offered. -/
def offeredTerm? (t : Timetable) (loads : Loads) (c : Course) (earliest : Nat) : Option Nat :=
  let first := Max.max earliest 1
  firstFrom (fun s => Term.isStart s && t.hasRoom loads s && c.fits s) (t.termsFrom first) first

/-- The first winter term with room. -/
def winterTerm? (t : Timetable) (loads : Loads) (earliest : Nat) : Option Nat :=
  let first := Max.max earliest 1
  firstFrom (fun s => Term.isStart s && t.hasRoom loads s) (t.termsFrom first) first

/-- The last term with room, or the last of all. -/
def overflowTerm (t : Timetable) (loads : Loads) (earliest : Nat) : Nat :=
  let first := Max.max earliest 1
  (lastFrom (t.hasRoom loads) (t.termsFrom first) first).getD t.numTerms

/-- Where a course is placed from a term on. -/
def place (t : Timetable) (loads : Loads) (c : Course) (earliest : Nat) : Spot :=
  match t.offeredTerm? loads c earliest with
  | some s => ⟨s, false⟩
  | none =>
    match t.winterTerm? loads earliest with
    | some s => ⟨s, false⟩
    | none => ⟨t.overflowTerm loads earliest, true⟩

end Timetable

end StudyPlan
