import StudyPlan.Text.Blank
import StudyPlan.Text.Case
import StudyPlan.Text.Digit

/-!
# Course codes

A course code is a subject and a number, `COSC 111`.  It may be typed in many
ways: in small letters, without the space, with blanks around it.
`Code.normalize` gives the one spelling under which courses are kept.  A text of
the loose shape (ASCII letters, blanks or none, digits, perhaps one more ASCII
letter) becomes the letters and the digits in upper case with one space between
them; any other text is trimmed and put in upper case.

`Code.inText` finds the codes in running text: four ASCII capitals, one space
and three digits, from left to right, each search going on after the last find.
Digits are those of any script.
-/

namespace StudyPlan

open Text

/-! ## Sets of codes -/

/-- A set of codes, in ascending order and without repetition. -/
abbrev CodeSet := List String

namespace CodeSet

/-- The set with one more code. -/
def insert (code : String) : CodeSet → CodeSet
  | [] => [code]
  | c :: rest =>
    if code = c then c :: rest
    else if code < c then code :: c :: rest
    else c :: insert code rest

/-- The set of the codes of a list. -/
def ofList (codes : List String) : CodeSet := codes.foldl (fun set c => insert c set) []

/-- The codes of either set. -/
def union (a b : CodeSet) : CodeSet := b.foldl (fun set c => insert c set) a

/-- The set without a code. -/
def erase (a : CodeSet) (code : String) : CodeSet := a.filter (· != code)

theorem mem_insert {code x : String} {set : CodeSet} :
    x ∈ insert code set ↔ x = code ∨ x ∈ set := by
  induction set with
  | nil => simp [insert]
  | cons c rest ih =>
    unfold insert
    split
    · rename_i h
      subst h
      simp
    · split
      · simp
      · simp only [List.mem_cons, ih]
        constructor
        · rintro (h | h | h) <;> simp [h]
        · rintro (h | h | h) <;> simp [h]

theorem mem_foldl_insert {x : String} (codes : List String) (set : CodeSet) :
    x ∈ codes.foldl (fun set c => insert c set) set ↔ x ∈ set ∨ x ∈ codes := by
  induction codes generalizing set with
  | nil => simp
  | cons c rest ih =>
    rw [List.foldl_cons, ih, mem_insert, List.mem_cons]
    constructor
    · rintro ((h | h) | h) <;> simp [h]
    · rintro (h | h | h) <;> simp [h]

theorem mem_ofList {x : String} {codes : List String} : x ∈ ofList codes ↔ x ∈ codes := by
  simp [ofList, mem_foldl_insert]

theorem mem_union {x : String} {a b : CodeSet} : x ∈ union a b ↔ x ∈ a ∨ x ∈ b :=
  mem_foldl_insert b a

theorem mem_erase {x code : String} {a : CodeSet} : x ∈ erase a code ↔ x ∈ a ∧ x ≠ code := by
  simp [erase]

end CodeSet

namespace Code

/-! ## The one spelling -/

/-- An ASCII letter. -/
def isAsciiLetter (c : Char) : Bool :=
  (decide ('A' ≤ c) && decide (c ≤ 'Z')) || (decide ('a' ≤ c) && decide (c ≤ 'z'))

/-- An ASCII capital. -/
def isAsciiCapital (c : Char) : Bool := decide ('A' ≤ c) && decide (c ≤ 'Z')

/-- The parts of a text of the loose shape: the letters, and the digits with the
letter after them. -/
def looseParts? (cs : List Char) : Option (List Char × List Char) :=
  let letters := cs.takeWhile isAsciiLetter
  let rest := (cs.dropWhile isAsciiLetter).dropWhile isBlank
  let digits := rest.takeWhile isDecimalDigit
  if letters.isEmpty ∨ digits.isEmpty then none
  else
    match rest.dropWhile isDecimalDigit with
    | [] => some (letters, digits)
    | [c] => if isAsciiLetter c then some (letters, digits ++ [c]) else none
    | _ => none

/-- The characters of the one spelling. -/
def normalizeChars (cs : List Char) : List Char :=
  match looseParts? (trimChars cs) with
  | some (letters, number) => upperChars letters ++ ' ' :: upperChars number
  | none => upperChars (trimChars cs)

/-- The one spelling of a code. -/
def normalize (s : String) : String := String.ofList (normalizeChars s.toList)

/-! ## Codes in running text -/

/-- The code that a text starts with, and what follows it. -/
def front? : List Char → Option (List Char × List Char)
  | a :: b :: c :: d :: ' ' :: x :: y :: z :: rest =>
    if [a, b, c, d].all isAsciiCapital && [x, y, z].all isDecimalDigit then
      some ([a, b, c, d, ' ', x, y, z], rest)
    else none
  | _ => none

/-- The codes found from left to right; after a find its other characters are skipped. -/
def scan (skip : Nat) : List Char → List (List Char)
  | [] => []
  | c :: cs =>
    match skip with
    | k + 1 => scan k cs
    | 0 =>
      match front? (c :: cs) with
      | some (code, _) => code :: scan (code.length - 1) cs
      | none => scan 0 cs

/-- The codes in a running text. -/
def inText (s : String) : CodeSet := CodeSet.ofList ((scan 0 s.toList).map String.ofList)

/-! ## Parts of a code -/

/-- The subject: the first word. -/
def subject (code : String) : String := (words code)[0]?.getD ""

/-- The number: the second word. -/
def number (code : String) : String := (words code)[1]?.getD ""

/-- The level: the first character of the number, if it is an ASCII digit. -/
def level? (code : String) : Option Nat := ((number code).toList.head?).bind asciiDigit?

end Code

end StudyPlan
