/-!
# Ranges of code points

Properties of characters are kept as lists of closed ranges of code points, in
ascending order.  `inRanges` looks a code point up, and `inRanges_iff` says
what a hit means.
-/

namespace StudyPlan.Text

/-- A closed range of code points, first and last. -/
abbrev CodeRange := Nat × Nat

/-- A code point lies in one of the ranges. -/
def inRanges (n : Nat) : List CodeRange → Bool
  | [] => false
  | (first, last) :: rest => (decide (first ≤ n) && decide (n ≤ last)) || inRanges n rest

theorem inRanges_iff {n : Nat} {ranges : List CodeRange} :
    inRanges n ranges = true ↔ ∃ r ∈ ranges, r.1 ≤ n ∧ n ≤ r.2 := by
  induction ranges with
  | nil => simp [inRanges]
  | cons r rest ih => simp [inRanges, ih]

end StudyPlan.Text
