import StudyPlan.Json.Numeral

/-!
# Data texts

A *document* is a data text whose form has been checked and whose parts have not
been given values yet: numbers are numerals, and a text with half of a surrogate
pair has no characters.  Objects keep every field, repeated ones too.  So a part
of a document that nobody asks for is checked for its form only, and may nest as
deep as it likes.

The form is strict.  One value stands between blanks (space, tab, line feed,
carriage return); there are no comments, no commas at an end, no zeros in front
of a number and no control characters inside a text.

`Document.ofText?` reads a document.  Its inner functions take a number that is
counted down with every call; twice the length of the text is more than they
use.
-/

namespace StudyPlan

namespace Json

/-- A data text whose parts have no values yet. -/
inductive Document where
  /-- No value. -/
  | null
  /-- A truth value. -/
  | bool (b : Bool)
  /-- A number. -/
  | number (n : Numeral)
  /-- A text, if it is well formed. -/
  | text (s : Option String)
  /-- A list. -/
  | array (items : List Document)
  /-- Named parts. -/
  | object (fields : List (Option String × Document))
deriving Inhabited

namespace Document

/-! ## Texts -/

/-- A part of a written text: a character, or a UTF-16 unit given by its code. -/
inductive TextPart where
  /-- A character. -/
  | char (c : Char)
  /-- A unit. -/
  | unit (n : Nat)

/-- The value of four hexadecimal digits. -/
def unit? (a b c d : Char) : Option Nat := do
  let a ← Text.hexDigit? a
  let b ← Text.hexDigit? b
  let c ← Text.hexDigit? c
  let d ← Text.hexDigit? d
  return ((a * 16 + b) * 16 + c) * 16 + d

/-- The character that a letter after a backslash stands for. -/
def escape? (c : Char) : Option Char :=
  if c = '"' ∨ c = '\\' ∨ c = '/' then some c
  else if c = 'b' then some '\x08'
  else if c = 'f' then some '\x0c'
  else if c = 'n' then some '\n'
  else if c = 'r' then some '\r'
  else if c = 't' then some '\t'
  else none

/-- The parts of a text up to the closing quotation mark, and what follows it. -/
def readParts : List Char → Option (List TextPart × List Char)
  | [] => none
  | '"' :: rest => some ([], rest)
  | '\\' :: 'u' :: a :: b :: c :: d :: rest => do
    let n ← unit? a b c d
    let (parts, rest) ← readParts rest
    return (.unit n :: parts, rest)
  | '\\' :: e :: rest => do
    let c ← escape? e
    let (parts, rest) ← readParts rest
    return (.char c :: parts, rest)
  | c :: rest =>
    if c.toNat < 32 ∨ c = '\\' then none
    else do
      let (parts, rest) ← readParts rest
      return (.char c :: parts, rest)

/-- The first half of a surrogate pair. -/
def isHigh (n : Nat) : Bool := decide (0xD800 ≤ n) && decide (n < 0xDC00)

/-- The second half of a surrogate pair. -/
def isLow (n : Nat) : Bool := decide (0xDC00 ≤ n) && decide (n < 0xE000)

/-- The characters of the parts; `none` if a half of a surrogate pair stands alone. -/
def joinParts : List TextPart → Option (List Char)
  | [] => some []
  | .char c :: rest => (joinParts rest).map (c :: ·)
  | .unit h :: .unit l :: rest =>
    if isHigh h then
      if isLow l then
        (joinParts rest).map (Char.ofNat (0x10000 + (h - 0xD800) * 0x400 + (l - 0xDC00)) :: ·)
      else none
    else if isLow h then none
    else (joinParts (.unit l :: rest)).map (Char.ofNat h :: ·)
  | .unit h :: rest =>
    if isHigh h ∨ isLow h then none else (joinParts rest).map (Char.ofNat h :: ·)

/-- A text after its opening quotation mark, and what follows it. -/
def readText (cs : List Char) : Option (Option String × List Char) :=
  (readParts cs).map fun (parts, rest) => ((joinParts parts).map String.ofList, rest)

/-! ## Numbers -/

/-- The digits before the point: a zero, or digits that do not start with one. -/
def readWhole : List Char → Option (List Char × List Char)
  | '0' :: rest => some (['0'], rest)
  | cs =>
    let ds := cs.takeWhile Text.isAsciiDigit
    if ds.isEmpty then none else some (ds, cs.dropWhile Text.isAsciiDigit)

/-- The digits after a point, if a point stands in front. -/
def readFraction : List Char → Option (List Char × List Char)
  | '.' :: cs =>
    let ds := cs.takeWhile Text.isAsciiDigit
    if ds.isEmpty then none else some (ds, cs.dropWhile Text.isAsciiDigit)
  | cs => some ([], cs)

/-- The exponent, if there is one. -/
def readExponent : List Char → Option (Option (Bool × List Char) × List Char)
  | c :: cs =>
    if c = 'e' ∨ c = 'E' then
      let (negative, rest) := Binary64.takeSign cs
      let ds := rest.takeWhile Text.isAsciiDigit
      if ds.isEmpty then none else some (some (negative, ds), rest.dropWhile Text.isAsciiDigit)
    else some (none, c :: cs)
  | [] => some (none, [])

/-- A numeral and what follows it. -/
def readNumeral (negative : Bool) (cs : List Char) : Option (Numeral × List Char) := do
  let (whole, rest) ← readWhole cs
  let (fraction, rest) ← readFraction rest
  let (exponent, rest) ← readExponent rest
  return (⟨negative, whole, fraction, exponent⟩, rest)

/-! ## Values -/

/-- A blank between the parts of a data text. -/
def isSpace (c : Char) : Bool := c == ' ' || c == '\t' || c == '\n' || c == '\r'

/-- The characters without the blanks in front. -/
def skip (cs : List Char) : List Char := cs.dropWhile isSpace

/-- A word and what follows it. -/
def readWord (word : List Char) (d : Document) (cs : List Char) : Option (Document × List Char) :=
  if word.isPrefixOf cs then some (d, cs.drop word.length) else none

/-- The name of a field, the colon after it, and what follows. -/
def readName (cs : List Char) : Option (Option String × List Char) :=
  match skip cs with
  | '"' :: rest =>
    match readText rest with
    | some (name, rest) =>
      match skip rest with
      | ':' :: rest => some (name, rest)
      | _ => none
    | none => none
  | _ => none

mutual

/-- A value and what follows it. -/
def readValue : Nat → List Char → Option (Document × List Char)
  | 0, _ => none
  | fuel + 1, cs =>
    match skip cs with
    | [] => none
    | '\x7b' :: rest =>
      match skip rest with
      | '\x7d' :: rest => some (.object [], rest)
      | _ => (readFields fuel rest).map fun (fields, rest) => (.object fields, rest)
    | '[' :: rest =>
      match skip rest with
      | ']' :: rest => some (.array [], rest)
      | _ => (readItems fuel rest).map fun (items, rest) => (.array items, rest)
    | '"' :: rest => (readText rest).map fun (s, rest) => (.text s, rest)
    | '-' :: rest => (readNumeral true rest).map fun (n, rest) => (.number n, rest)
    | 'n' :: rest => readWord ['u', 'l', 'l'] .null rest
    | 't' :: rest => readWord ['r', 'u', 'e'] (.bool true) rest
    | 'f' :: rest => readWord ['a', 'l', 's', 'e'] (.bool false) rest
    | c :: rest => (readNumeral false (c :: rest)).map fun (n, rest) => (.number n, rest)

/-- The items of a list up to its closing bracket, at least one, and what follows it. -/
def readItems : Nat → List Char → Option (List Document × List Char)
  | 0, _ => none
  | fuel + 1, cs =>
    match readValue fuel cs with
    | none => none
    | some (item, rest) =>
      match skip rest with
      | ',' :: rest => (readItems fuel rest).map fun (items, rest) => (item :: items, rest)
      | ']' :: rest => some ([item], rest)
      | _ => none

/-- The fields of an object up to its closing brace, at least one, and what follows it. -/
def readFields : Nat → List Char → Option (List (Option String × Document) × List Char)
  | 0, _ => none
  | fuel + 1, cs =>
    match readName cs with
    | none => none
    | some (name, rest) =>
      match readValue fuel rest with
      | none => none
      | some (value, rest) =>
        match skip rest with
        | ',' :: rest =>
          (readFields fuel rest).map fun (fields, rest) => ((name, value) :: fields, rest)
        | '\x7d' :: rest => some ([(name, value)], rest)
        | _ => none

end

/-- The document that a text spells. -/
def ofText? (s : String) : Option Document :=
  let cs := s.toList
  match readValue (2 * cs.length + 2) cs with
  | some (d, rest) => if (skip rest).isEmpty then some d else none
  | none => none

end Document

end Json

end StudyPlan
