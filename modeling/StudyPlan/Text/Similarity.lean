import StudyPlan.Binary64

/-!
# Similarity of texts

The Jaro–Winkler similarity of two texts, a number from 0 to 1.  Characters
*match* when they are equal and not far apart, each at most once; the first free
character of the window is taken.  A match that goes back behind the one before
it is a transposition.  The common start of the texts, however long it is,
brings the similarity nearer to 1.

All arithmetic is that of binary64 numbers, in the order in which it is written
here.
-/

namespace StudyPlan.Text

namespace Similarity

/-- The first free place of a window with a character, the places counted from
`place` on. -/
def findFree (c : Char) (low high : Nat) (used : List Nat) :
    (place : Nat) → List Char → Option Nat
  | _, [] => none
  | place, d :: ds =>
    if high < place then none
    else if low ≤ place ∧ c = d ∧ !used.contains place then some place
    else findFree c low high used (place + 1) ds

/-- Matches under way. -/
structure Matches where
  /-- The places used up. -/
  used : List Nat := []
  /-- The number of matches. -/
  count : Nat := 0
  /-- The number of transpositions. -/
  transpositions : Nat := 0
  /-- The place of the match before. -/
  last : Nat := 0

/-- The matches after one more character. -/
def matchNext (b : List Char) (range : Nat) (m : Matches) (c : Char) (i : Nat) : Matches :=
  match findFree c (i - range) (Min.min (b.length - 1) (i + range)) m.used 0 b with
  | none => m
  | some j =>
    { used := j :: m.used
      count := m.count + 1
      transpositions := if j < m.last then m.transpositions + 1 else m.transpositions
      last := j }

/-- The matches of two texts. -/
def matchAll (a b : List Char) : Matches :=
  let range := Max.max a.length b.length / 2 - 1
  a.zipIdx.foldl (fun m (c, i) => matchNext b range m c i) {}

/-- One. -/
def one : Binary64 := .ofNat 1

/-- Zero. -/
def zero : Binary64 := .ofNat 0

/-- The similarity by matches and transpositions. -/
def jaro (a b : List Char) : Binary64 :=
  match a, b with
  | [], [] => one
  | [], _ => zero
  | _, [] => zero
  | [c], [d] => if c = d then one else zero
  | a, b =>
    let m := matchAll a b
    if m.count = 0 then zero
    else
      let count := Binary64.ofNat m.count
      let inA := count.div (.ofNat a.length)
      let inB := count.div (.ofNat b.length)
      let inOrder := (count.sub (.ofNat m.transpositions)).div count
      (one.div (.ofNat 3)).mul ((inA.add inB).add inOrder)

/-- The length of the common start. -/
def commonStart : List Char → List Char → Nat
  | a :: as, b :: bs => if a = b then commonStart as bs + 1 else 0
  | _, _ => 0

/-- A tenth. -/
def tenth : Binary64 := .ofRatio false 1 10

end Similarity

open Similarity in
/-- The similarity of two texts. -/
def similarity (a b : List Char) : Binary64 :=
  let base := jaro a b
  let start := Binary64.ofNat (commonStart a b)
  let raised := base.add ((tenth.mul start).mul (one.sub base))
  if raised.le one then raised else one

end StudyPlan.Text
