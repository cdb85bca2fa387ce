import StudyPlan.Chance

/-!
# Operations that may fail

Some operations make sense for some arguments only.  No number is left when more is taken
away than there is, a range needs its bounds in order, nothing is drawn from nothing, and a
place has to be one of its list.  Where a definition of this library comes to such an
operation it has a value all the same: a difference stops at zero, and a place outside a
list is passed over.

The operations here are *strict*: one that makes no sense is a *fault*, and nothing
follows it.  Each has a lemma that says for which arguments it gives something.

A sum that is too great for its word is a fault or not, as the program is built (`Build`).
A *checked* program stops at it, and a *wrapping* one goes on with its last bits, as
`Word.low32` and `Word.low64` do.  So there are no two programs here but one, with a fault
exactly if it is checked and something does not fit: every strict definition that adds has
a lemma of the form `f build a = require (build = .checked → fits a) .overflow (g a)`.

A run of strict steps through a list has no fault if there is none in any of its steps,
which may rest on what the steps before it keep (`foldlM_eq_ok`, `mapM_eq_ok`).
-/

namespace StudyPlan

namespace Strict

open Chance (Source)

/-- Why an operation makes no sense. -/
inductive Fault where
  /-- More is taken away than there is. -/
  | belowZero
  /-- It is divided by zero. -/
  | divisionByZero
  /-- The bounds of a range are not in order. -/
  | crossedBounds
  /-- There is nothing to draw from. -/
  | emptyDraw
  /-- There is no such place in a list. -/
  | noSuchPlace
  /-- A sum is too great for its word. -/
  | overflow
deriving DecidableEq, Repr

variable {α β σ : Type} {xs ys : List α} {a b : α}

/-- A value that there is only under a condition. -/
def require (condition : Prop) [Decidable condition] (fault : Fault) (a : α) : Except Fault α :=
  if condition then .ok a else .error fault

theorem require_eq_ok_iff {condition : Prop} [Decidable condition] {fault : Fault} :
    require condition fault a = .ok b ↔ condition ∧ a = b := by
  unfold require
  by_cases h : condition
  · simp [h]
  · simp [h]

@[simp] theorem ok_bind (a : α) (f : α → Except Fault β) : (Except.ok a >>= f) = f a := rfl

variable {fault : Fault} {p q : Prop} [Decidable p] [Decidable q]

theorem require_of (h : p) : require p fault a = .ok a := if_pos h

theorem require_congr (h : p ↔ q) : require p fault a = require q fault a := by
  unfold require
  by_cases hp : p
  · rw [if_pos hp, if_pos (h.1 hp)]
  · rw [if_neg hp, if_neg fun hq => hp (h.2 hq)]

/-- Two conditions one after the other. -/
theorem require_bind {f : α → Except Fault β} {c : β} (h : f a = require q fault c) :
    (require p fault a >>= f) = require (p ∧ q) fault c := by
  by_cases hp : p
  · rw [require_of hp, ok_bind, h]
    exact require_congr (and_iff_right hp).symm
  · unfold require
    rw [if_neg hp, if_neg fun hpq => hp hpq.1]
    rfl

/-- A condition before a step that has no fault. -/
theorem require_bind_ok {f : α → Except Fault β} {c : β} (h : f a = .ok c) :
    (require p fault a >>= f) = require p fault c := by
  unfold require
  split
  · exact h
  · rfl

/-! ## Sums -/

/-- How a program is built. -/
inductive Build where
  /-- A sum that is too great for its word is a fault. -/
  | checked
  /-- Of a sum that is too great for its word the last bits are left. -/
  | wrapping
deriving DecidableEq, Repr

variable {build : Build}

/-- A sum in a word that has so many values. -/
def word (build : Build) (size sum : Nat) : Except Fault Nat :=
  match build with
  | .checked => require (sum < size) .overflow sum
  | .wrapping => .ok (sum % size)

theorem word_eq (build : Build) (size sum : Nat) :
    word build size sum = require (build = .checked → sum < size) .overflow (sum % size) := by
  cases build with
  | wrapping => exact (require_of fun hbuild => nomatch hbuild).symm
  | checked =>
    show require (sum < size) .overflow sum = _
    by_cases hlt : sum < size
    · rw [require_of hlt, Nat.mod_eq_of_lt hlt]
      exact (require_of fun _ => hlt).symm
    · unfold require
      rw [if_neg hlt, if_neg fun h => hlt (h rfl)]

/-! ## Numbers -/

variable {m n r low high : Nat}

/-- What is left of a number. -/
def sub (m n : Nat) : Except Fault Nat := require (n ≤ m) .belowZero (m - n)

/-- A number divided. -/
def divide (m n : Nat) : Except Fault Nat := require (n ≠ 0) .divisionByZero (m / n)

/-- A number kept within bounds. -/
def clamp (n low high : Nat) : Except Fault Nat :=
  require (low ≤ high) .crossedBounds (Max.max low (Min.min n high))

theorem sub_eq_ok_iff : sub m n = .ok r ↔ n ≤ m ∧ m - n = r := require_eq_ok_iff

theorem divide_eq_ok_iff : divide m n = .ok r ↔ n ≠ 0 ∧ m / n = r := require_eq_ok_iff

theorem clamp_eq_ok_iff :
    clamp n low high = .ok r ↔ low ≤ high ∧ Max.max low (Min.min n high) = r := require_eq_ok_iff

/-! ## Draws -/

variable {s : Source} {range : Nat} {drawn : Nat × Source}

/-- A value below a bound, drawn from 32-bit words. -/
def below32 (s : Source) (range : Nat) : Except Fault (Nat × Source) :=
  require (0 < range) .emptyDraw (s.below32 range)

/-- A value below a bound, drawn from 64-bit words. -/
def below64 (s : Source) (range : Nat) : Except Fault (Nat × Source) :=
  require (0 < range) .emptyDraw (s.below64 range)

theorem below32_eq_ok_iff : below32 s range = .ok drawn ↔ 0 < range ∧ s.below32 range = drawn :=
  require_eq_ok_iff

theorem below64_eq_ok_iff : below64 s range = .ok drawn ↔ 0 < range ∧ s.below64 range = drawn :=
  require_eq_ok_iff

/-! ## Places -/

variable {i size : Nat}

/-- A place that is one of so many. -/
def index (size i : Nat) : Except Fault Nat := require (i < size) .noSuchPlace i

/-- What is at a place of a list. -/
def item (xs : List α) (i : Nat) : Except Fault α :=
  match xs[i]? with
  | some a => .ok a
  | none => .error .noSuchPlace

/-- What is at a place of a list, and the list without it. -/
def take (xs : List α) (i : Nat) : Except Fault (α × List α) := do
  let a ← item xs i
  return (a, xs.eraseIdx i)

/-- A list with one more item at a place, which may be its end. -/
def insert (xs : List α) (i : Nat) (a : α) : Except Fault (List α) :=
  require (i ≤ xs.length) .noSuchPlace (xs.insertIdx i a)

theorem index_eq_ok_iff : index size i = .ok r ↔ i < size ∧ i = r := require_eq_ok_iff

theorem item_eq_ok_iff : item xs i = .ok a ↔ xs[i]? = some a := by
  unfold item
  cases xs[i]? with
  | none => simp
  | some b => simp

theorem item_eq_getD (h : i < xs.length) (a : α) : item xs i = .ok (xs.getD i a) := by
  rw [item_eq_ok_iff, List.getD_eq_getElem?_getD, List.getElem?_eq_getElem h, Option.getD_some]

theorem take_eq_ok_iff : take xs i = .ok (a, ys) ↔ xs[i]? = some a ∧ xs.eraseIdx i = ys := by
  unfold take item
  cases xs[i]? with
  | none => simp [bind, Except.bind]
  | some b => simp [bind, Except.bind, pure, Except.pure]

theorem insert_eq_ok_iff : insert xs i a = .ok ys ↔ i ≤ xs.length ∧ xs.insertIdx i a = ys :=
  require_eq_ok_iff

example : insert [1, 2] 2 0 = .ok [1, 2, 0] := rfl

example : insert [1, 2] 3 0 = .error .noSuchPlace := rfl

/-! ## Runs -/

/-- A run of steps has no fault if no step has one where the steps before it lead. -/
theorem foldlM_eq_ok {f : σ → α → Except Fault σ} {g : σ → α → σ} {P : σ → Prop} {s : σ}
    (start : P s) (step : ∀ s, P s → ∀ a ∈ xs, f s a = .ok (g s a))
    (keep : ∀ s, P s → ∀ a ∈ xs, P (g s a)) : xs.foldlM f s = .ok (xs.foldl g s) := by
  induction xs generalizing s with
  | nil => rfl
  | cons a xs ih =>
    rw [List.foldlM_cons, step s start a List.mem_cons_self, ok_bind, List.foldl_cons]
    refine ih (keep s start a List.mem_cons_self) (fun s hs b hb => ?_) (fun s hs b hb => ?_)
    · exact step s hs b (List.mem_cons_of_mem _ hb)
    · exact keep s hs b (List.mem_cons_of_mem _ hb)

/-- A run of steps has no fault if no step has one wherever it is taken. -/
theorem foldlM_eq_ok_of_forall {f : σ → α → Except Fault σ} {g : σ → α → σ}
    (step : ∀ s, ∀ a ∈ xs, f s a = .ok (g s a)) (s : σ) : xs.foldlM f s = .ok (xs.foldl g s) :=
  foldlM_eq_ok (P := fun _ => True) trivial (fun s _ => step s) fun _ _ _ _ => trivial

/-- A run of steps has a fault if the condition of a step does not hold. -/
theorem foldlM_eq_require {f : σ → α → Except Fault σ} {g : σ → α → σ} {P : α → Prop}
    [DecidablePred P] (step : ∀ s, ∀ a ∈ xs, f s a = require (P a) fault (g s a)) (s : σ) :
    xs.foldlM f s = require (∀ a ∈ xs, P a) fault (xs.foldl g s) := by
  induction xs generalizing s with
  | nil => exact (require_of fun _ ha => nomatch ha).symm
  | cons a xs ih =>
    rw [List.foldlM_cons, step s a List.mem_cons_self,
      require_bind (f := xs.foldlM f) (ih (fun s b hb => step s b (List.mem_cons_of_mem _ hb)) (g s a))]
    exact require_congr List.forall_mem_cons.symm

theorem mapM_eq_ok {f : α → Except Fault β} {g : α → β} (step : ∀ a ∈ xs, f a = .ok (g a)) :
    xs.mapM f = .ok (xs.map g) := by
  induction xs with
  | nil => rfl
  | cons a xs ih =>
    rw [List.mapM_cons, step a List.mem_cons_self, ok_bind,
      ih fun b hb => step b (List.mem_cons_of_mem _ hb)]
    rfl

end Strict

end StudyPlan
