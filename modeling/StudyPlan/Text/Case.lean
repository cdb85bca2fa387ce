import StudyPlan.Text.CaseTable
import StudyPlan.Text.CasedTable

/-!
# Upper and lower case

Full case mappings: a character may be mapped to several (`ß` to `SS`), and a
capital sigma at the end of a word is lowered to the final form.  ASCII letters
are mapped directly and every other character by the tables.
-/

namespace StudyPlan.Text

/-- What a run maps a code point to, if it is one of its points. -/
def CaseRun.image? (r : CaseRun) (n : Nat) : Option Nat :=
  if r.first ≤ n ∧ n ≤ r.last ∧ (n - r.first) % r.step = 0 then some (r.image + (n - r.first))
  else none

/-- The full mapping of a code point by its tables. -/
def mapCase (sequences : List (Nat × List Nat)) (runs : List CaseRun) (c : Char) : List Char :=
  match sequences.lookup c.toNat with
  | some image => image.map Char.ofNat
  | none =>
    match runs.findSome? (·.image? c.toNat) with
    | some n => [Char.ofNat n]
    | none => [c]

/-- The upper case of a character. -/
def upperChar (c : Char) : List Char :=
  if c.toNat < 128 then [c.toUpper] else mapCase upperSequences upperRuns c

/-- The lower case of a character that stands alone. -/
def lowerChar (c : Char) : List Char :=
  if c.toNat < 128 then [c.toLower] else mapCase lowerSequences lowerRuns c

/-- The upper case of a list of characters. -/
def upperChars (cs : List Char) : List Char := cs.flatMap upperChar

/-- The first character that a decision about a word does not look through is cased. -/
def meetsCased (cs : List Char) : Bool :=
  match cs.dropWhile (fun c => inRanges c.toNat caseIgnorableRanges) with
  | [] => false
  | c :: _ => inRanges c.toNat casedRanges

/-- The capital sigma. -/
def capitalSigma : Char := 'Σ'

/-- The lower case of what follows, `before` being the characters already
passed, last first. -/
def lowerAfter (before : List Char) : List Char → List Char
  | [] => []
  | c :: cs =>
    (if c = capitalSigma then
        if meetsCased before && !meetsCased cs then ['ς'] else ['σ']
      else lowerChar c) ++ lowerAfter (c :: before) cs

/-- The lower case of a list of characters. -/
def lowerChars (cs : List Char) : List Char := lowerAfter [] cs

/-- The upper case of a text. -/
def upper (s : String) : String := String.ofList (upperChars s.toList)

/-- The lower case of a text. -/
def lower (s : String) : String := String.ofList (lowerChars s.toList)

theorem upperChars_append (cs ds : List Char) :
    upperChars (cs ++ ds) = upperChars cs ++ upperChars ds := by
  simp [upperChars]

end StudyPlan.Text
