import StudyPlan.Requirement.Basic
import StudyPlan.Requirement.Filter

/-!
# What a requirement demands

A requirement whose pool has exactly the credits asked for demands the whole
pool.  One with any other pool demands *slots*: places in the plan that start
with a placeholder, as many as the placeholder's credits need to reach the
target.  An empty pool demands nothing.
-/

namespace StudyPlan

/-- What a requirement demands. -/
inductive Demand where
  /-- Every one of these courses. -/
  | whole (courses : List Course)
  /-- A number of slots for courses of a pool. -/
  | slots (placeholder : Course) (pool : List Course) (count : Nat)
deriving DecidableEq, Repr

/-- How many placeholders reach a target of credits.  A placeholder without
credits does so alone. -/
def slotCount (target credits : Nat) : Nat :=
  if credits = 0 then if 0 < target then 1 else 0
  else (target + credits - 1) / credits

namespace Requirement

/-- The placeholder of a requirement, or the generic one. -/
def placeholder (catalog : Catalog) (r : Requirement) : Course :=
  (r.placeholderCode.bind catalog.get?).getD catalog.generic

/-- What a requirement demands. -/
def demand (catalog : Catalog) (r : Requirement) : Demand :=
  let pool := Query.pool catalog r.query
  if pool.isEmpty ∨ totalCredits pool = r.credits then .whole pool
  else
    let placeholder := r.placeholder catalog
    .slots placeholder pool (slotCount r.credits placeholder.credits)

end Requirement

end StudyPlan
