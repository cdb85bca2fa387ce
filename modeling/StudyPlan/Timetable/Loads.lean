/-!
# Loads

How full each term is, kept as a counter for each term that was ever used.  The
counters are adjusted one course at a time: placing a course adds it to its term,
moving it removes it from the old term and adds it to the new one.

`Loads.Counts` says what the counters are for: in every term they tell how many
courses of a list of terms are there.  It holds at the start
(`Loads.counts_ofTerms`) and is kept by placing (`Loads.Counts.add`) and by
moving (`Loads.Counts.move`).
-/

namespace StudyPlan

/-- How many courses are placed in each term. -/
structure Loads where
  /-- The terms with their numbers of courses. -/
  counters : List (Nat × Nat) := []
deriving DecidableEq, Repr

namespace Loads

/-- The counter of a term.  A term that is not listed has no courses. -/
def counter (term : Nat) : List (Nat × Nat) → Nat
  | [] => 0
  | (s, n) :: rest => if s = term then n else counter term rest

/-- The counters with the one of a term changed. -/
def change (f : Nat → Nat) (term : Nat) : List (Nat × Nat) → List (Nat × Nat)
  | [] => [(term, f 0)]
  | (s, n) :: rest => if s = term then (s, f n) :: rest else (s, n) :: change f term rest

/-- The number of courses in a term. -/
def get (l : Loads) (term : Nat) : Nat := counter term l.counters

/-- The loads with one more course in a term. -/
def add (l : Loads) (term : Nat) : Loads := ⟨change (· + 1) term l.counters⟩

/-- The loads with one course less in a term, if there is one. -/
def remove (l : Loads) (term : Nat) : Loads := ⟨change (· - 1) term l.counters⟩

/-- The loads of courses that are placed in these terms. -/
def ofTerms (terms : List Nat) : Loads := terms.foldl add {}

/-! ## Counters and terms -/

theorem counter_change (f : Nat → Nat) (term s : Nat) (counters : List (Nat × Nat)) :
    counter s (change f term counters)
      = if s = term then f (counter s counters) else counter s counters := by
  induction counters with
  | nil =>
    by_cases h : s = term
    · simp [change, counter, h]
    · simp [change, counter, h, Ne.symm h]
  | cons head rest ih =>
    obtain ⟨r, n⟩ := head
    by_cases hr : r = term
    · by_cases hs : s = term
      · simp [change, counter, hr, hs]
      · simp [change, counter, hr, hs, Ne.symm hs]
    · by_cases hs : r = s
      · subst hs
        simp [change, counter, hr]
      · simp only [change, counter, if_neg hr, if_neg hs, ih]

theorem get_add (l : Loads) (term s : Nat) :
    (l.add term).get s = if s = term then l.get s + 1 else l.get s :=
  counter_change (· + 1) term s l.counters

theorem get_remove (l : Loads) (term s : Nat) :
    (l.remove term).get s = if s = term then l.get s - 1 else l.get s :=
  counter_change (· - 1) term s l.counters

/-- The counters tell how many courses of a list of terms are in each term. -/
def Counts (l : Loads) (terms : List Nat) : Prop := ∀ s, l.get s = terms.count s

theorem counts_empty : ({} : Loads).Counts [] := fun _ => rfl

/-- Placing one more course. -/
theorem Counts.add {l : Loads} {terms : List Nat} (h : l.Counts terms) (term : Nat) :
    (l.add term).Counts (terms ++ [term]) := by
  intro s
  rw [get_add, h s, List.count_append]
  by_cases hs : s = term
  · simp [hs]
  · simp [hs, Ne.symm hs]

/-- Moving a course from its term to another. -/
theorem Counts.move {l : Loads} {terms : List Nat} (h : l.Counts terms) {i old : Nat}
    (hi : terms[i]? = some old) (new : Nat) :
    ((l.remove old).add new).Counts (terms.set i new) := by
  intro s
  obtain ⟨hlt, hold⟩ := List.getElem?_eq_some_iff.1 hi
  rw [get_add, get_remove, h s, List.count_set hlt, hold]
  by_cases hn : s = new
  · subst hn
    by_cases ho : s = old
    · subst ho
      simp
    · simp [ho, Ne.symm ho]
  · by_cases ho : s = old
    · subst ho
      simp [hn, Ne.symm hn]
    · simp [hn, ho, Ne.symm hn, Ne.symm ho]

theorem counts_foldl_add (terms : List Nat) :
    ∀ {l : Loads} {before : List Nat}, l.Counts before →
      (terms.foldl Loads.add l).Counts (before ++ terms) := by
  induction terms with
  | nil => intro l before h; simpa using h
  | cons term rest ih =>
    intro l before h
    simpa using ih (h.add term)

theorem counts_ofTerms (terms : List Nat) : (ofTerms terms).Counts terms :=
  counts_foldl_add terms counts_empty

end Loads

end StudyPlan
