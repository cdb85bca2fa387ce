import StudyPlan.Proofs.Faults
import StudyPlan.Proofs.Running

/-!
# Sums that may not fit

The four sums of `StudyPlan.Word` are taken here as a program takes them, checked or
wrapping.  A program that is wrapping gives what the definitions of this library give, and
one that is checked gives the same if the sum fits, and else has a fault (`roundUp_eq`,
`addYear_eq`, `totalCredits_eq`, `push_eq`).

Credits are added one course after another, and a checked program stops at the first sum
that is too great.  No sum is less than one before it, so only the last one counts.

Reading a record has one such sum, for the number after a planned course.  If these fit, no
record is a fault, whether or not it describes a plan (`ofRecord_eq`).
-/

namespace StudyPlan

namespace Strict

variable {build : Build} {plan : Plan} {p : PlannedCourse}

/-! ## Terms -/

/-- The number of terms in the least number of whole years that holds this many. -/
def roundUp (build : Build) (terms : Nat) : Except Fault Nat :=
  word build UInt32.size
    (((Max.max terms 1 + (termsPerYear - 1)) / termsPerYear) * termsPerYear)

/-- A plan without courses, with at least this many terms in whole years. -/
def empty (build : Build) (id title : String) (numTerms : Nat) : Except Fault Plan := do
  return { id, title, numTerms := ← roundUp build numTerms }

/-- The plan with one more year. -/
def addYear (build : Build) (plan : Plan) : Except Fault Plan := do
  return { plan with numTerms := ← word build UInt32.size (plan.numTerms + termsPerYear) }

theorem roundUp_eq (build : Build) (terms : Nat) :
    roundUp build terms
      = require (build = .checked → Term.Fits terms) .overflow (Term.roundUp terms) := by
  have hfits : ((Max.max terms 1 + (termsPerYear - 1)) / termsPerYear) * termsPerYear
      < UInt32.size ↔ Term.Fits terms := by
    unfold Term.Fits
    unfold termsPerYear UInt32.size
    omega
  exact (word_eq ..).trans (require_congr (forall_congr' fun _ => hfits))

theorem empty_eq (build : Build) (id title : String) (numTerms : Nat) :
    empty build id title numTerms
      = require (build = .checked → Term.Fits numTerms) .overflow
          (Plan.empty id title numTerms) := by
  rw [empty, roundUp_eq]
  exact require_bind_ok rfl

theorem addYear_eq (build : Build) (plan : Plan) :
    addYear build plan
      = require (build = .checked → plan.numTerms + termsPerYear < UInt32.size) .overflow
          plan.addYear := by
  rw [addYear, word_eq]
  exact require_bind_ok rfl

/-! ## Credits -/

/-- The credits of some courses. -/
def totalCredits (build : Build) (courses : List Course) : Except Fault Nat :=
  courses.foldlM (fun total c => word build UInt32.size (total + c.credits)) 0

theorem creditSum_cons (c : Course) (courses : List Course) :
    creditSum (c :: courses) = c.credits + creditSum courses := rfl

theorem foldlM_credits (build : Build) (courses : List Course) {total : Nat}
    (htotal : total < UInt32.size) :
    courses.foldlM (fun total c => word build UInt32.size (total + c.credits)) total
      = require (build = .checked → total + creditSum courses < UInt32.size) .overflow
          (Word.low32 (total + creditSum courses)) := by
  induction courses generalizing total with
  | nil =>
    rw [List.foldlM_nil, creditSum, List.map_nil, List.foldr_nil, Nat.add_zero,
      Word.low32_of_lt htotal]
    exact (require_of fun _ => htotal).symm
  | cons c courses ih =>
    have hlater := ih (Word.low32_lt (total + c.credits))
    have hsum : Word.low32 (Word.low32 (total + c.credits) + creditSum courses)
        = Word.low32 (total + creditSum (c :: courses)) := by
      rw [creditSum_cons, ← Nat.add_assoc]
      exact Nat.mod_add_mod ..
    rw [hsum] at hlater
    rw [List.foldlM_cons, word_eq]
    refine Eq.trans (require_bind hlater) (require_congr ?_)
    rw [creditSum_cons, ← Nat.add_assoc]
    constructor
    · rintro ⟨hfirst, hrest⟩ hbuild
      have hrest := hrest hbuild
      rwa [Word.low32_of_lt (hfirst hbuild)] at hrest
    · intro h
      have hfirst : build = .checked → total + c.credits < UInt32.size :=
        fun hbuild => Nat.lt_of_le_of_lt (Nat.le_add_right ..) (h hbuild)
      refine ⟨hfirst, fun hbuild => ?_⟩
      rw [Word.low32_of_lt (hfirst hbuild)]
      exact h hbuild

theorem totalCredits_eq (build : Build) (courses : List Course) :
    totalCredits build courses
      = require (build = .checked → creditSum courses < UInt32.size) .overflow
          (StudyPlan.totalCredits courses) := by
  have hsum := foldlM_credits build courses (by decide : 0 < UInt32.size)
  rwa [Nat.zero_add] at hsum

/-! ## Numbers -/

/-- The next number to give out after a planned course. -/
def nextIdAfter (build : Build) (plan : Plan) (p : PlannedCourse) : Except Fault Nat :=
  if p.id = 0 then return plan.nextId + 1
  else if plan.nextId ≤ p.id then word build UInt64.size (p.id + 1)
  else return plan.nextId

/-- The plan with one more course, which gets a number if it has none. -/
def push (build : Build) (plan : Plan) (p : PlannedCourse) : Except Fault Plan := do
  let nextId ← nextIdAfter build plan p
  return { plan with courses := plan.courses ++ [{ p with id := plan.idFor p }], nextId }

/-- The plan with the planned courses of some records. -/
def pushRecords (build : Build) (catalog : Catalog) (numTerms : Nat) :
    List Nat → Plan → List PlannedCourseRecord → Except Fault (Except PlanningError Plan)
  | _, plan, [] => return .ok plan
  | taken, plan, r :: rest =>
    match Plan.coursePlannedBy catalog numTerms taken r with
    | .ok p => do pushRecords build catalog numTerms (r.id :: taken) (← push build plan p) rest
    | .error e => return .error e

/-- The plan that a record describes. -/
def ofRecord (build : Build) (catalog : Catalog) (r : PlanRecord) :
    Except Fault (Except PlanningError Plan) :=
  if r.numTerms = 0 ∨ r.numTerms % termsPerYear ≠ 0 then
    return .error (.badRecord (.numTerms r.numTerms))
  else do
    let plan ← empty build r.id r.title r.numTerms
    pushRecords build catalog r.numTerms [] { plan with userId := r.userId } r.courses

/-- Only a number that a planned course comes with may have none after it. -/
theorem nextIdAfter_eq (build : Build) (plan : Plan) (p : PlannedCourse) :
    nextIdAfter build plan p
      = require (build = .checked → plan.nextId ≤ p.id → p.id + 1 < UInt64.size) .overflow
          (plan.nextIdAfter p) := by
  unfold nextIdAfter Plan.nextIdAfter
  split
  next hzero => exact (require_of fun _ _ => hzero.symm ▸ by decide).symm
  next =>
    split
    next hle =>
      rw [word_eq]
      exact require_congr ⟨fun h hbuild _ => h hbuild, fun h hbuild => h hbuild hle⟩
    next hgt => exact (require_of fun _ hle => absurd hle hgt).symm

theorem push_eq (build : Build) (plan : Plan) (p : PlannedCourse) :
    push build plan p
      = require (build = .checked → plan.nextId ≤ p.id → p.id + 1 < UInt64.size) .overflow
          (plan.push p) := by
  rw [push, nextIdAfter_eq]
  exact require_bind_ok rfl

theorem pushRecords_eq {catalog : Catalog} {numTerms : Nat} {rs : List PlannedCourseRecord}
    (h : build = .checked → ∀ r ∈ rs, r.id + 1 < UInt64.size) :
    ∀ (taken : List Nat) (plan : Plan),
      pushRecords build catalog numTerms taken plan rs
        = .ok (Plan.pushRecords catalog numTerms taken plan rs) := by
  induction rs with
  | nil => exact fun _ _ => rfl
  | cons r rs ih =>
    intro taken plan
    rw [pushRecords, Plan.pushRecords]
    cases hread : Plan.coursePlannedBy catalog numTerms taken r with
    | error e => rfl
    | ok p =>
      have hid : p.id = r.id := (Plan.accepted_of_ok hread).id_eq
      have hpush : push build plan p = .ok (plan.push p) :=
        (push_eq ..).trans (require_of fun hbuild _ => hid ▸ h hbuild r (List.mem_cons_self ..))
      simp only [hpush, ok_bind]
      exact ih (fun hbuild q hq => h hbuild q (List.mem_cons_of_mem _ hq)) _ _

/-- A record is read without a fault if there is a number after each of its numbers. -/
theorem ofRecord_eq {catalog : Catalog} {r : PlanRecord} (hsize : r.numTerms < UInt32.size)
    (h : build = .checked → ∀ c ∈ r.courses, c.id + 1 < UInt64.size) :
    ofRecord build catalog r = .ok (Plan.ofRecord catalog r) := by
  unfold ofRecord Plan.ofRecord
  split
  · rfl
  next hyears =>
    -- Whole years are not rounded up.
    have hfits : Term.Fits r.numTerms := by
      unfold Term.Fits
      unfold termsPerYear UInt32.size at *
      omega
    rw [empty_eq, require_of fun _ => hfits, ok_bind]
    exact pushRecords_eq h _ _

end Strict

end StudyPlan
