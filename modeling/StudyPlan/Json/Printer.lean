import StudyPlan.Binary64.Shortest
import StudyPlan.Json.Basic

/-!
# Writing data values

Two layouts: `compact`, without any blank, and `pretty`, with a line for each
item and field, indented by two spaces a level, and nothing between the brackets
of an empty list or object.

In a text a quotation mark, a backslash and the control characters below the
space are escaped, five of them by a letter and the others by `\u` and four
hexadecimal digits.  All other characters stand for themselves.
-/

namespace StudyPlan

namespace Json

/-! ## Texts -/

/-- A hexadecimal digit. -/
def hexDigit (n : Nat) : Char := Char.ofNat (if n < 10 then 48 + n else 87 + n)

/-- A character of a text as it is written. -/
def escapedChar (c : Char) : List Char :=
  if c = '"' then ['\\', '"']
  else if c = '\\' then ['\\', '\\']
  else if c = '\x08' then ['\\', 'b']
  else if c = '\x0c' then ['\\', 'f']
  else if c = '\n' then ['\\', 'n']
  else if c = '\r' then ['\\', 'r']
  else if c = '\t' then ['\\', 't']
  else if c.toNat < 32 then
    ['\\', 'u', '0', '0', hexDigit (c.toNat / 16), hexDigit (c.toNat % 16)]
  else [c]

/-- A text between quotation marks. -/
def textChars (s : String) : List Char := '"' :: s.toList.flatMap escapedChar ++ ['"']

/-- A whole number. -/
def intChars (i : Int) : List Char :=
  (if i < 0 then ['-'] else []) ++ Nat.toDigits 10 i.natAbs

/-! ## The compact layout -/

mutual

/-- A value without any blank. -/
def compactChars : Json → List Char
  | .null => ['n', 'u', 'l', 'l']
  | .bool true => ['t', 'r', 'u', 'e']
  | .bool false => ['f', 'a', 'l', 's', 'e']
  | .int i => intChars i
  | .float x => x.dataText.toList
  | .text s => textChars s
  | .array items => '[' :: compactItems items ++ [']']
  | .object fields => '\x7b' :: compactFields fields ++ ['\x7d']

/-- Items with commas between them. -/
def compactItems : List Json → List Char
  | [] => []
  | [a] => compactChars a
  | a :: b :: rest => compactChars a ++ ',' :: compactItems (b :: rest)

/-- Fields with commas between them. -/
def compactFields : List (String × Json) → List Char
  | [] => []
  | [(k, a)] => textChars k ++ ':' :: compactChars a
  | (k, a) :: b :: rest =>
    textChars k ++ ':' :: (compactChars a ++ ',' :: compactFields (b :: rest))

end

/-- A value without any blank. -/
def compact (v : Json) : String := String.ofList v.compactChars

/-! ## The indented layout -/

/-- The start of a line at a level. -/
def newLine (level : Nat) : List Char := '\n' :: List.replicate (2 * level) ' '

mutual

/-- A value that starts at a level. -/
def prettyChars (level : Nat) : Json → List Char
  | .array [] => ['[', ']']
  | .array (a :: items) => '[' :: prettyItems (level + 1) (a :: items) ++ newLine level ++ [']']
  | .object [] => ['\x7b', '\x7d']
  | .object (a :: fields) =>
    '\x7b' :: prettyFields (level + 1) (a :: fields) ++ newLine level ++ ['\x7d']
  | .null => ['n', 'u', 'l', 'l']
  | .bool true => ['t', 'r', 'u', 'e']
  | .bool false => ['f', 'a', 'l', 's', 'e']
  | .int i => intChars i
  | .float x => x.dataText.toList
  | .text s => textChars s

/-- Items, each on its own line. -/
def prettyItems (level : Nat) : List Json → List Char
  | [] => []
  | [a] => newLine level ++ prettyChars level a
  | a :: b :: rest => newLine level ++ prettyChars level a ++ ',' :: prettyItems level (b :: rest)

/-- Fields, each on its own line. -/
def prettyFields (level : Nat) : List (String × Json) → List Char
  | [] => []
  | [(k, a)] => newLine level ++ textChars k ++ ':' :: ' ' :: prettyChars level a
  | (k, a) :: b :: rest =>
    newLine level ++ textChars k ++ ':' :: ' ' :: prettyChars level a ++
      ',' :: prettyFields level (b :: rest)

end

/-- A value with a line for each item and field. -/
def pretty (v : Json) : String := String.ofList (v.prettyChars 0)

end Json

end StudyPlan
