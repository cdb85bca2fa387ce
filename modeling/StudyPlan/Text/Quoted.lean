import StudyPlan.Text.PrintableTable

/-!
# Quoted text

A text between quotation marks for a message.  A quotation mark, a backslash,
tab, carriage return, line feed and NUL are written with a backslash, and a
character without a form of its own by its code point in hexadecimal.  An
apostrophe stands for itself.
-/

namespace StudyPlan.Text

/-- A number in lower-case hexadecimal. -/
def hexChars (n : Nat) : List Char := Nat.toDigits 16 n

/-- A character of a quoted text. -/
def quotedChar (c : Char) : List Char :=
  if c = '\x00' then ['\\', '0']
  else if c = '\t' then ['\\', 't']
  else if c = '\n' then ['\\', 'n']
  else if c = '\r' then ['\\', 'r']
  else if c = '"' then ['\\', '"']
  else if c = '\\' then ['\\', '\\']
  else if inRanges c.toNat extendingRanges || inRanges c.toNat invisibleRanges then
    ['\\', 'u', '\x7b'] ++ hexChars c.toNat ++ ['\x7d']
  else [c]

/-- A text between quotation marks. -/
def quoted (s : String) : String :=
  String.ofList ('"' :: s.toList.flatMap quotedChar ++ ['"'])

end StudyPlan.Text
