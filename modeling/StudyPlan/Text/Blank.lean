/-!
# Blanks

The characters with the property White_Space, and what depends on them: trimming
a text and splitting it into words.  A text is worked on as its list of
characters.

`occursIn_iff` says that occurring is being an infix.
-/

namespace StudyPlan.Text

/-- A character with the property White_Space. -/
def isBlank (c : Char) : Bool :=
  let n := c.toNat
  (9 ≤ n && n ≤ 13) || n == 32 || n == 0x85 || n == 0xA0 || n == 0x1680 ||
    (0x2000 ≤ n && n ≤ 0x200A) || n == 0x2028 || n == 0x2029 || n == 0x202F || n == 0x205F ||
    n == 0x3000

/-- The characters without the blanks at their end. -/
def trimEndChars (cs : List Char) : List Char := (cs.reverse.dropWhile isBlank).reverse

/-- The characters without the blanks at either end. -/
def trimChars (cs : List Char) : List Char := trimEndChars (cs.dropWhile isBlank)

/-- A text without the blanks at either end. -/
def trim (s : String) : String := String.ofList (trimChars s.toList)

/-- The words of a text: its longest runs without a blank. -/
def wordsChars (cs : List Char) : List (List Char) := (cs.splitOnP isBlank).filter (!·.isEmpty)

/-- The words of a text: its longest runs without a blank. -/
def words (s : String) : List String := (wordsChars s.toList).map String.ofList

/-- The parts of a text between the occurrences of a character, empty parts included. -/
def splitAt (mark : Char) (s : String) : List String :=
  (s.toList.splitOnP (· == mark)).map String.ofList

/-- One list of characters occurs in another without a gap. -/
def occursIn (part : List Char) : List Char → Bool
  | [] => part.isEmpty
  | c :: cs => part.isPrefixOf (c :: cs) || occursIn part cs

/-- A text occurs in another. -/
def contains (s part : String) : Bool := occursIn part.toList s.toList

/-! ## Laws -/

theorem occursIn_iff {part cs : List Char} : occursIn part cs = true ↔ part <:+: cs := by
  induction cs with
  | nil => simp [occursIn]
  | cons c cs ih =>
    rw [occursIn, Bool.or_eq_true, List.isPrefixOf_iff_prefix, ih, List.infix_cons_iff]

end StudyPlan.Text
