import StudyPlan.Text.Blank
import StudyPlan.Text.LetterTable

/-!
# Files of variables

A file of variables has a line `NAME=value` for each.  Blank lines and lines
that start with `#` say nothing, and `export` may stand before a name.  A value
goes to the first blank; after it only a comment may follow.  Between
apostrophes every character stands for itself, and between quotation marks
blanks do.  A backslash lets `\`, `'`, `"`, `$` and a blank stand for
themselves, and `\n` is a line feed.  `$NAME` and `${NAME}` are replaced by the
value of a variable, or by nothing.

Reading stops at the first line of any other form; the variables before it are
kept.  A variable that has a value keeps it.

A variable is kept as one text, its name, an equals sign and its value, and is
looked up by what the text starts with (`Variables.value?`).  So the name
`A=b` finds the variable `A` if its value starts with `b=`.  `value?_cons_self`
says that a name without an equals sign finds its own variable.

No value holds a zero character, and a file that sets one is not usable.
-/

namespace StudyPlan

namespace EnvFile

/-! ## Variables -/

/-- Variables, each with its name and its value, the first ones first. -/
abbrev Variables := List (String × String)

/-- What follows one list of characters at the front of another. -/
def afterFront? : List Char → List Char → Option (List Char)
  | [], cs => some cs
  | _ :: _, [] => none
  | a :: as, c :: cs => if a = c then afterFront? as cs else none

/-- The value that a variable has under a name. -/
def valueUnder? (name : String) (named : String × String) : Option String :=
  (afterFront? (name.toList ++ ['=']) (named.1.toList ++ '=' :: named.2.toList)).map
    String.ofList

/-- The value of a name. -/
def Variables.value? (vs : Variables) (name : String) : Option String :=
  if name.isEmpty then none else vs.findSome? (valueUnder? name)

theorem afterFront?_append (as cs : List Char) : afterFront? as (as ++ cs) = some cs := by
  induction as with
  | nil => rfl
  | cons a as ih => simp [afterFront?, ih]

theorem valueUnder?_self (name value : String) : valueUnder? name (name, value) = some value := by
  have h := afterFront?_append (name.toList ++ ['=']) value.toList
  simp only [List.append_assoc, List.singleton_append] at h
  simp [valueUnder?, h]

theorem Variables.value?_cons_self (vs : Variables) (name value : String)
    (h : name.isEmpty = false) : Variables.value? ((name, value) :: vs) name = some value := by
  simp [Variables.value?, h, valueUnder?_self]

/-! ## Names -/

/-- A character that a name may start with. -/
def startsName (c : Char) : Bool := c.isAlpha || c == '_'

/-- A character that a name may go on with. -/
def continuesName (c : Char) : Bool := c.isAlphanum || c == '_' || c == '.'

/-- A name at the front, and what follows it and the blanks after it. -/
def readName : List Char → Option (List Char × List Char)
  | c :: cs =>
    if startsName c then
      some ((c :: cs).takeWhile continuesName,
        ((c :: cs).dropWhile continuesName).dropWhile Text.isBlank)
    else none
  | [] => none

/-- What follows an equals sign. -/
def afterEquals : List Char → Option (List Char)
  | '=' :: cs => some cs
  | _ => none

/-! ## Values -/

/-- Where a value is being read. -/
inductive Mode where
  /-- Outside all marks. -/
  | plain
  /-- Between apostrophes. -/
  | single
  /-- Between quotation marks. -/
  | double
deriving DecidableEq, Repr

/-- A part of a value. -/
inductive Piece where
  /-- A character that stands for itself. -/
  | char (c : Char)
  /-- The value of a variable. -/
  | valueOf (name : String)
deriving DecidableEq, Repr

/-- What the next character is part of. -/
inductive Pending where
  /-- Nothing that is open. -/
  | nothing
  /-- The character after a backslash. -/
  | escape
  /-- A name after a dollar sign, last character first. -/
  | name (cs : List Char)
  /-- A name between braces, last character first. -/
  | braced (cs : List Char)
deriving DecidableEq, Repr

/-- The value of a name whose characters are given last first. -/
def Piece.ofName (cs : List Char) : Piece := .valueOf (String.ofList cs.reverse)

/-- What follows a value is blank or a comment. -/
def endsWell (cs : List Char) : Bool :=
  match cs.dropWhile (fun c => c == ' ' || c == '\t') with
  | [] => true
  | c :: _ => c == '#'

/-- The value of the characters that are left, `out` being what was read, last first. -/
def readValue : Mode → Pending → List Piece → List Char → Option (List Piece)
  | .single, _, _, [] => none
  | .double, _, _, [] => none
  | .plain, .braced _, _, [] => none
  | .plain, .name cs, out, [] => some (Piece.ofName cs :: out).reverse
  | .plain, _, out, [] => some out.reverse
  | .single, p, out, c :: rest =>
    if c = '\'' then readValue .plain p out rest
    else readValue .single p (.char c :: out) rest
  | mode, .escape, out, c :: rest =>
    if c = '\\' ∨ c = '\'' ∨ c = '"' ∨ c = '$' ∨ c = ' ' then
      readValue mode .nothing (.char c :: out) rest
    else if c = 'n' then readValue mode .nothing (.char '\n' :: out) rest
    else none
  | mode, .braced cs, out, c :: rest =>
    if c = '\x7d' then readValue mode .nothing (Piece.ofName cs :: out) rest
    else readValue mode (.braced (c :: cs)) out rest
  | mode, .name cs, out, c :: rest =>
    if Text.isLetterOrNumber c then readValue mode (.name (c :: cs)) out rest
    else if c = '\x7b' ∧ cs.isEmpty then readValue mode (.braced []) out rest
    else
      let out := Piece.ofName cs :: out
      if c = '$' then readValue mode (.name []) out rest
      else readValue mode .nothing (.char c :: out) rest
  | mode, .nothing, out, c :: rest =>
    if c = '$' then readValue mode (.name []) out rest
    else if c = '\\' then readValue mode .escape out rest
    else if mode = .double then
      if c = '"' then readValue .plain .nothing out rest
      else readValue .double .nothing (.char c :: out) rest
    else if c = '\'' then readValue .single .nothing out rest
    else if c = '"' then readValue .double .nothing out rest
    else if c = ' ' ∨ c = '\t' then if endsWell rest then some out.reverse else none
    else readValue .plain .nothing (.char c :: out) rest

/-- The text of a value. -/
def fill (known : Variables) (value : List Piece) : String :=
  String.join (value.map fun
    | .char c => c.toString
    | .valueOf name => (known.value? name).getD "")

/-! ## Lines -/

/-- What a line says. -/
inductive Line where
  /-- Nothing. -/
  | nothing
  /-- A variable and its value. -/
  | sets (name : String) (value : List Piece)
  /-- A line of another form. -/
  | bad
deriving DecidableEq, Repr

/-- The name that a line is about, and what follows its equals sign. -/
def readHead (cs : List Char) : Option (List Char × List Char) := do
  let (name, rest) ← readName cs
  match afterEquals rest with
  | some rest => return (name, rest)
  | none =>
    if name = "export".toList then
      let (name, rest) ← readName rest
      return (name, ← afterEquals rest)
    else none

/-- What a line says. -/
def readLine (line : List Char) : Line :=
  match Text.trimChars line with
  | [] => .nothing
  | '#' :: _ => .nothing
  | cs =>
    match readHead cs with
    | none => .bad
    | some (name, rest) =>
      match rest.dropWhile Text.isBlank with
      | [] => .sets (String.ofList name) []
      | '#' :: _ => .sets (String.ofList name) []
      | value =>
        match readValue .plain .nothing [] value with
        | some value => .sets (String.ofList name) value
        | none => .bad

/-- The lines of a file, up to the first of another form. -/
def linesOf (file : String) : List Line :=
  ((file.toList.splitOn '\n').map readLine).takeWhile (· != .bad)

/-- The names that some lines are about. -/
def namesIn (lines : List Line) : List String :=
  lines.flatMap fun
    | .sets name value =>
      name :: value.filterMap fun
        | .valueOf name => some name
        | .char _ => none
    | _ => []

/-- The variables with those of some lines added; none if a value holds a zero character. -/
def extend? (known : Variables) : List Line → Option Variables
  | [] => some known
  | .sets name value :: rest =>
    if (known.value? name).isSome then extend? known rest
    else
      let text := fill known value
      if text.toList.contains '\x00' then none else extend? (known ++ [(name, text)]) rest
  | _ :: rest => extend? known rest

example :
    extend? [("A", "b=1"), ("C", "2")]
        (linesOf "C=3\nD=$C.$\x7bA=b\x7d\nE='$C' # one\nbad\nF=4") =
      some [("A", "b=1"), ("C", "2"), ("D", "2.1"), ("E", "$C")] := by decide +kernel

end EnvFile

end StudyPlan
