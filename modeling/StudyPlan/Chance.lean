/-!
# Random draws

Random words come from a *source*.  A draw below a bound multiplies a word with
the bound and takes the high half of the product.  A word whose low half lies
past the zone is refused, so that every value is as likely as any other; refused
words are followed by the next.

Words come in two widths.  In a listed source every draw takes one word of 64
bits, and a narrow draw uses the lower half of it.  In a source of 32-bit words
a wide draw takes two, the lower half first.
-/

namespace StudyPlan

namespace Chance

/-- Where random words come from. -/
structure Source where
  /-- The 32-bit word at a position. -/
  narrow : Nat → UInt32
  /-- The 64-bit word at a position. -/
  wide : Nat → UInt64
  /-- How many positions a wide draw takes. -/
  wideStep : Nat
  /-- How many words one draw refuses before it takes the least value. -/
  patience : Nat
  /-- The position of the next word. -/
  position : Nat

/-- The words of a list, and zeros after them.  A zero is never refused. -/
def Source.ofList (words : List Nat) : Source where
  narrow i := UInt32.ofNat (words.getD i 0)
  wide i := UInt64.ofNat (words.getD i 0)
  wideStep := 1
  patience := words.length + 1
  position := 0

/-- A stream of 32-bit words. -/
def Source.ofStream (words : Nat → UInt32) : Source where
  narrow i := words i
  wide i := (words i).toUInt64 ||| ((words (i + 1)).toUInt64 <<< 32)
  wideStep := 2
  patience := 4096
  position := 0

/-- The largest low half that is taken: the bound moved up as far as a word
allows, less one. -/
def zone (bits range : Nat) : Nat := range <<< (bits - 1 - range.log2) - 1

/-- The first value below `range` that is not refused, and how many words were drawn. -/
def draw (bits range : Nat) (word : Nat → Nat) : (patience : Nat) → Nat × Nat
  | 0 => (0, 0)
  | patience + 1 =>
    let p := word 0 * range
    if p % (1 <<< bits) ≤ zone bits range then (p >>> bits, 1)
    else
      let (v, drawn) := draw bits range (fun i => word (i + 1)) patience
      (v, drawn + 1)

theorem draw_lt {bits range : Nat} (hrange : 0 < range) {patience : Nat} :
    ∀ {word : Nat → Nat}, (∀ i, word i < 1 <<< bits) →
      (draw bits range word patience).1 < range := by
  induction patience with
  | zero => exact fun _ => hrange
  | succ patience ih =>
    intro word hword
    simp only [draw]
    split
    · have hproduct : word 0 * range < (1 <<< bits) * range :=
        Nat.mul_lt_mul_of_pos_right (hword 0) hrange
      rw [Nat.shiftLeft_eq, Nat.one_mul] at hproduct
      rw [Nat.shiftRight_eq_div_pow]
      exact Nat.div_lt_of_lt_mul hproduct
    · exact ih fun i => hword (i + 1)

/-- A value below a bound, drawn from 32-bit words. -/
def Source.below32 (s : Source) (range : Nat) : Nat × Source :=
  let (v, drawn) := draw 32 range (fun i => (s.narrow (s.position + i)).toNat) s.patience
  (v, { s with position := s.position + drawn })

/-- A value below a bound, drawn from 64-bit words. -/
def Source.below64 (s : Source) (range : Nat) : Nat × Source :=
  let (v, drawn) := draw 64 range (fun i => (s.wide (s.position + i * s.wideStep)).toNat) s.patience
  (v, { s with position := s.position + drawn * s.wideStep })

theorem Source.below32_lt (s : Source) {range : Nat} (hrange : 0 < range) :
    (s.below32 range).1 < range :=
  draw_lt hrange fun i => (s.narrow (s.position + i)).toNat_lt

theorem Source.below64_lt (s : Source) {range : Nat} (hrange : 0 < range) :
    (s.below64 range).1 < range :=
  draw_lt hrange fun i => (s.wide (s.position + i * s.wideStep)).toNat_lt

end Chance

end StudyPlan
