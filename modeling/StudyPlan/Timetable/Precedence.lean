import StudyPlan.Plan.Basic

/-!
# Which planned course comes before which

A planned course depends on another when its course asks for the code that the
other shows.  A search slot that still shows its placeholder depends on
nothing.  Positions in the plan's list stand for the planned courses, and
`Precedence.edges` lists each pair of a prerequisite and its dependent once.

The pairs come from joining two indices.  The catalogue tells which codes a
course asks for, and where it has nothing to tell, the course itself is looked
through (`codesFor`).  `positions` tells where in the plan a code is shown; there
may be several places.  The dependents are gone through in the order of the plan,
their codes in ascending order, and the places of each code in the order of the
plan.

`Precedence.order` goes depth first from prerequisites to dependents and takes
each planned course before those that were finished earlier.  If that puts every
prerequisite before its dependents, it is the order; if not, prerequisites run
in a circle, and the order is the plan's own.
-/

namespace StudyPlan

/-- Which positions of a list of planned courses come before which. -/
structure Precedence where
  /-- The number of positions. -/
  size : Nat
  /-- The pairs of a prerequisite and a dependent. -/
  edges : List (Nat × Nat)
deriving DecidableEq, Repr

namespace Precedence

/-! ## Building -/

/-- The codes that a planned course asks for, by the catalogue or else by the
course itself. -/
def codesFor (catalog : Catalog) (p : PlannedCourse) : CodeSet :=
  (catalog.prerequisitesOf? p.code).getD p.course.prerequisiteCodes

/-- The planned course depends on nothing, whatever its course asks for. -/
def isFree (p : PlannedCourse) : Bool := p.isSearchSlot && p.showsPlaceholder

/-- Where each code is shown in a list of planned courses. -/
def positions (courses : List PlannedCourse) : CodeMap (List Nat) :=
  courses.zipIdx.foldl (fun found (p, i) => found.push p.code i) []

/-- The pairs with those of some prerequisites and one dependent.  No pair comes
twice, and nothing depends on itself. -/
def addSources (dependent : Nat) (edges : List (Nat × Nat)) (sources : List Nat) :
    List (Nat × Nat) :=
  sources.foldl
    (fun edges i =>
      if i = dependent ∨ edges.contains (i, dependent) then edges else edges ++ [(i, dependent)])
    edges

/-- The pairs with those that one planned course is the dependent of. -/
def addDependent (codesOf : PlannedCourse → CodeSet) (found : CodeMap (List Nat))
    (edges : List (Nat × Nat)) (dependent : PlannedCourse × Nat) : List (Nat × Nat) :=
  if isFree dependent.1 then edges
  else
    (codesOf dependent.1).foldl (fun edges code => addSources dependent.2 edges (found.items code))
      edges

/-- The precedence among planned courses that ask for some codes. -/
def join (codesOf : PlannedCourse → CodeSet) (courses : List PlannedCourse) : Precedence where
  size := courses.length
  edges := courses.zipIdx.foldl (addDependent codesOf (positions courses)) []

/-- The precedence among planned courses. -/
def ofCourses (catalog : Catalog) (courses : List PlannedCourse) : Precedence :=
  join (codesFor catalog) courses

/-! ## Neighbours -/

/-- A number put in its place among ascending numbers. -/
def putAscending (n : Nat) : List Nat → List Nat
  | [] => [n]
  | m :: rest => if n ≤ m then n :: m :: rest else m :: putAscending n rest

/-- Numbers in ascending order. -/
def ascending (ns : List Nat) : List Nat := ns.foldr putAscending []

/-- The other ends, ascending, of the pairs that have a position at one end. -/
def neighbours (g : Precedence) (this other : Nat × Nat → Nat) (i : Nat) : List Nat :=
  ascending ((g.edges.filter (this · == i)).map other)

/-- The prerequisites of a position, ascending. -/
def prerequisitesOf (g : Precedence) (i : Nat) : List Nat := g.neighbours (·.2) (·.1) i

/-- The dependents of a position, ascending. -/
def dependentsOf (g : Precedence) (i : Nat) : List Nat := g.neighbours (·.1) (·.2) i

/-! ## Ordering -/

/-- A walk under way: the positions met, and those finished, last first. -/
structure Walk where
  /-- The positions met. -/
  met : List Nat
  /-- The positions finished, last first. -/
  finished : List Nat

/-- The walk after a position and everything that depends on it.  No path is
longer than the number of positions, which is what is counted down. -/
def visit (g : Precedence) : Nat → Nat → Walk → Walk
  | 0, _, w => w
  | depth + 1, i, w =>
    if w.met.contains i then w
    else
      let w := (g.dependentsOf i).foldl (fun w j => visit g depth j w)
        { w with met := i :: w.met }
      { w with finished := i :: w.finished }

/-- The walk over all positions. -/
def walk (g : Precedence) : Walk :=
  (List.range g.size).foldl (fun w i => visit g g.size i w) ⟨[], []⟩

/-- Every prerequisite comes before its dependent. -/
def respects (g : Precedence) (order : List Nat) : Bool :=
  g.edges.all fun (i, j) => decide (order.idxOf i < order.idxOf j)

/-- The positions in an order that puts prerequisites first, or in plan order
where there is none. -/
def order (g : Precedence) : List Nat :=
  let finished := g.walk.finished
  if g.respects finished then finished else List.range g.size

end Precedence

end StudyPlan
