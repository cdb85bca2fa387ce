import StudyPlan.Text.Ranges

/-!
# Paths

A *path* is the way from the root to a file or a folder: the names on it.  A
name is a list of bytes, since some names are no text.

A *written path* has its names between slashes.  It starts at the root if a slash
is in front, and at the folder of work otherwise.  Its names are followed one by
one: `.` stays, `..` goes up, and any other name goes down, whether there is
such a folder or not.  Every path on the way counts, so a name that is too long
spoils the rest, even if `..` leaves it again.
-/

namespace StudyPlan

namespace Archive

/-- The bytes of a text. -/
def bytesOf (s : String) : List UInt8 := s.toList.flatMap String.utf8EncodeChar

/-- The way from the root to a file or a folder. -/
structure Path where
  /-- The names on the way. -/
  names : List (List UInt8)
deriving DecidableEq, Repr, Inhabited

namespace Path

/-- The root. -/
def root : Path := ⟨[]⟩

/-- The byte of a slash. -/
def slash : UInt8 := 47

/-- The names of a written path. -/
def namesOf (written : List UInt8) : List (List UInt8) :=
  (written.splitOn slash).filter fun name => !name.isEmpty

/-- The path where a written one starts. -/
def startOf (here : Path) (written : List UInt8) : Path :=
  if written.head? = some slash then root else here

/-- Where a name leads. -/
def enter (p : Path) (name : List UInt8) : Path :=
  if name = bytesOf "." then p
  else if name = bytesOf ".." then ⟨p.names.dropLast⟩
  else ⟨p.names ++ [name]⟩

/-- Where some names lead. -/
def follow (p : Path) (names : List (List UInt8)) : Path := names.foldl enter p

/-- The paths on the way, the first and the last included. -/
def trail (p : Path) : List (List UInt8) → List Path
  | [] => [p]
  | name :: rest => p :: (p.enter name).trail rest

/-- The number of bytes, a slash in front of each name included. -/
def length (p : Path) : Nat := (p.names.map fun name => name.length + 1).foldr (· + ·) 0

/-- The path of a file beside this one, with a text after the last name. -/
def beside (p : Path) (ending : String) : Path :=
  match p.names.getLast? with
  | some name => ⟨p.names.dropLast ++ [name ++ bytesOf ending]⟩
  | none => p

/-- The bytes that a path has room for. -/
def room : Nat := 512

/-- A path on the way is short enough. -/
def isWalkable (p : Path) : Bool := decide (p.length < room)

/-- A path can be that of a file that has other files beside it. -/
def canHoldFile (p : Path) : Bool :=
  !p.names.isEmpty && decide (p.length + "-journal".length ≤ room)

end Path

end Archive

end StudyPlan
