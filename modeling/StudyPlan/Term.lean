import StudyPlan.Word

/-!
# Terms and years

A plan's terms are numbered from 1, four to a year: Winter 1, Winter 2, Summer
1, Summer 2.  Courses are placed in winter terms, so those two are the *start
terms*.
-/

namespace StudyPlan

/-- The number of terms in a year. -/
def termsPerYear : Nat := 4

/-- The place of a term in its year. -/
inductive Slot where
  /-- The first term. -/
  | winter1
  /-- The second term. -/
  | winter2
  /-- The third term. -/
  | summer1
  /-- The fourth term. -/
  | summer2
deriving DecidableEq, Repr

namespace Term

/-- The year of a term.  Term 0, which is none, counts with the first year. -/
def year (term : Nat) : Nat := (term - 1) / termsPerYear + 1

/-- A winter term. -/
def isStart (term : Nat) : Bool := decide (1 ≤ term) && decide ((term - 1) % termsPerYear < 2)

/-- The place of a term in its year. -/
def slot (term : Nat) : Slot :=
  match (term - 1) % termsPerYear with
  | 0 => .winter1
  | 1 => .winter2
  | 2 => .summer1
  | _ => .summer2

/-- The number of terms in the least number of whole years, at least one, that
holds this many. -/
def roundUp (terms : Nat) : Nat :=
  Word.low32 (((Max.max terms 1 + (termsPerYear - 1)) / termsPerYear) * termsPerYear)

/-- The whole years that hold so many terms fit in their word. -/
def Fits (terms : Nat) : Prop := terms + termsPerYear ≤ UInt32.size

instance (terms : Nat) : Decidable (Fits terms) :=
  inferInstanceAs (Decidable (terms + termsPerYear ≤ UInt32.size))

theorem roundUp_pos {terms : Nat} (h : Fits terms) : 0 < roundUp terms := by
  unfold Fits at h
  unfold roundUp Word.low32
  unfold termsPerYear UInt32.size at *
  omega

theorem roundUp_mod (terms : Nat) : roundUp terms % termsPerYear = 0 := by
  unfold roundUp Word.low32 termsPerYear UInt32.size
  omega

theorem roundUp_lt (terms : Nat) : roundUp terms < UInt32.size := Word.low32_lt _

/-- Whole years are left as they are. -/
theorem roundUp_eq_self {terms : Nat} (h : 0 < terms) (h4 : terms % termsPerYear = 0)
    (hlt : terms < UInt32.size) : roundUp terms = terms := by
  unfold roundUp Word.low32
  unfold termsPerYear UInt32.size at *
  omega

/-- Where the whole years do not fit, there are none. -/
theorem roundUp_eq_zero {terms : Nat} (hlt : terms < UInt32.size) (h : ¬ Fits terms) :
    roundUp terms = 0 := by
  unfold Fits at h
  unfold roundUp Word.low32
  unfold termsPerYear UInt32.size at *
  omega

end Term

/-- In which terms of the year a course is offered. -/
structure Offerings where
  /-- In Winter 1. -/
  winter1 : Bool := false
  /-- In Winter 2. -/
  winter2 : Bool := false
  /-- In Summer 1. -/
  summer1 : Bool := false
  /-- In Summer 2. -/
  summer2 : Bool := false
deriving DecidableEq, Repr, Inhabited

namespace Offerings

/-- Offered in every term. -/
def always : Offerings := ⟨true, true, true, true⟩

/-- Offered in a place of the year. -/
def has (o : Offerings) : Slot → Bool
  | .winter1 => o.winter1
  | .winter2 => o.winter2
  | .summer1 => o.summer1
  | .summer2 => o.summer2

/-- Offered in some winter term. -/
def anyWinter (o : Offerings) : Bool := o.winter1 || o.winter2

end Offerings

end StudyPlan
