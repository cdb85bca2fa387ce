import StudyPlan.Archive
import StudyPlan.Archive.Path

/-!
# Files

What archives need of files.  What is done to them is left to whoever has them:
`Files` says what is needed, in any monad.  So every step happens in the order
in which it is written, and what was done before a step that fails stays done.

A file holds an archive or a text, and an empty file is mostly as good as none.
-/

namespace StudyPlan

namespace Archive

/-- What is found at a path. -/
inductive Found where
  /-- Nothing. -/
  | nothing
  /-- Nothing can be there: a name is too long, or a file stands where a folder should. -/
  | blocked
  /-- A folder. -/
  | folder
  /-- A file that holds an archive. -/
  | archive (a : Archive)
  /-- A file that holds a text. -/
  | text (s : String)
deriving DecidableEq, Repr

namespace Found

/-- A file is found. -/
def isFile : Found → Bool
  | .archive _ => true
  | .text _ => true
  | _ => false

/-- A file is found that is not empty. -/
def isFilled : Found → Bool
  | .archive _ => true
  | .text s => !s.isEmpty
  | _ => false

/-- A file is found that does not start with a zero byte. -/
def isMarked : Found → Bool
  | .archive _ => true
  | .text s => !s.isEmpty && s.toList.head? != some '\x00'
  | _ => false

/-- A file or a folder is found. -/
def isThere (found : Found) : Bool := found.isFile || found == .folder

/-- A folder is found, or a file that is not empty. -/
def isTaken (found : Found) : Bool := found.isFilled || found == .folder

end Found

/-- What archives need of files. -/
structure Files (m : Type → Type) where
  /-- The folder of work. -/
  here : m Path
  /-- What is found at a path. -/
  lookAt : Path → m Found
  /-- Something is found at a written path. -/
  isThere : List UInt8 → m Bool
  /-- A folder is made where there is none, and those on the way to it. -/
  makeFolder : String → m Bool
  /-- A text is written to a file, which is made where there is none. -/
  writeText : Path → String → m Bool
  /-- An archive is written to a file. -/
  write : Path → Archive → m Bool
  /-- A file is taken away. -/
  remove : Path → m Unit

end Archive

end StudyPlan
