import StudyPlan.Archive.Address
import StudyPlan.Text.Blank

/-!
# Where an archive is kept

An archive is named by a written path or by an address.  The empty path and
`:memory:` stand for an archive that is kept nowhere and lasts as long as the
program runs.

A path names a file that is made where there is none.  The parameters of an
address say more.  `mode` says whether the file is made and whether it is
written, and `mode=memory` keeps nothing.  Of the file systems one has no files,
and the others differ in where a lock on a file is (`Locking`).  An address that
asks for any other mode or file system is refused, and so is one that keeps
nothing and yet only reads.

The folder of a name is made where there is none.  It is read off the name as a
written path, also if the name is an address.
-/

namespace StudyPlan

namespace Archive

/-- How the file of an archive is used. -/
inductive Access where
  /-- It is read and never written. -/
  | readOnly
  /-- It has to be there. -/
  | existing
  /-- It is made where there is none. -/
  | orNew
deriving DecidableEq, Repr

/-- Where the lock on a file in use is. -/
inductive Locking where
  /-- On parts of the file. -/
  | parts
  /-- On the whole file. -/
  | whole
  /-- Beside the file. -/
  | beside
  /-- Nowhere. -/
  | nowhere
deriving DecidableEq, Repr

/-- A file for an archive. -/
structure Shelf where
  /-- The written path. -/
  path : List UInt8
  /-- How the file is used. -/
  access : Access := .orNew
  /-- Where the lock is. -/
  locking : Locking := .parts
  /-- No lock is taken. -/
  isUnlocked : Bool := false
  /-- The file never changes, so nothing beside it counts. -/
  isFixed : Bool := false
  /-- The file which users of a log share is only read. -/
  isShareFixed : Bool := false
  /-- A file whose permissions a new one gets. -/
  model : Option (List UInt8) := none
deriving DecidableEq, Repr

/-- Where an archive is kept. -/
inductive Place where
  /-- Nowhere: it lasts as long as the program runs. -/
  | nowhere
  /-- In a file. -/
  | file (shelf : Shelf)
deriving DecidableEq, Repr

/-- A written path that stands for no file. -/
def isNowhere (path : List UInt8) : Bool := path.isEmpty || path == bytesOf ":memory:"

namespace Address

/-- The file systems that have files, and where a lock is in each. -/
def fileSystems : List (String × Locking) :=
  [("unix", .parts), ("unix-excl", .whole), ("unix-dotfile", .beside), ("unix-none", .nowhere)]

/-- The file system that has no files. -/
def memorySystem : String := "memdb"

/-- The access that a mode asks for; none if it asks for no file. -/
def Mode.access? : Mode → Option Access
  | .memory => none
  | .readOnly => some .readOnly
  | .existing => some .existing
  | .orNew => some .orNew

/-- The longest path of the file system that has no files. -/
def memoryRoom : Nat := 1016

/-- The place of a path in the file system that has no files. -/
def memoryPlace? (a : Address) (access : Access) : Option Place :=
  if access = .readOnly then none
  else if isNowhere a.path then some .nowhere
  else if a.options.isFixed = some true ∨ memoryRoom < a.path.length then none
  else some .nowhere

/-- The place of a path in another file system. -/
def filePlace? (a : Address) (access : Access) (locking : Locking) : Option Place :=
  let o := a.options
  if isNowhere a.path then if access = .readOnly then none else some .nowhere
  else
    some (.file
      { path := a.path
        access
        locking
        isUnlocked := o.isUnlocked.getD false
        isFixed := o.isFixed.getD false
        isShareFixed := o.isShareFixed.getD false
        model := o.model })

/-- The place of an address. -/
def place? (a : Address) : Option Place :=
  let system := a.options.system
  if system = bytesOf memorySystem then
    match a.options.mode.access? with
    | none => some .nowhere
    | some access => memoryPlace? a access
  else do
    let (_, locking) ← fileSystems.find? fun named => bytesOf named.1 == system
    match a.options.mode.access? with
    | none => some .nowhere
    | some access => filePlace? a access locking

end Address

namespace Place

/-- The place that a name stands for. -/
def ofName? (name : String) : Option Place :=
  match name.toList with
  | 'f' :: 'i' :: 'l' :: 'e' :: ':' :: cs => (Address.ofChars? cs).bind Address.place?
  | _ => some (if isNowhere (bytesOf name) then .nowhere else .file { path := bytesOf name })

/-- The folder of a name, empty if the name has none. -/
def folderOf (name : String) : String :=
  let parts := (Text.splitAt '/' name).filter fun part => !part.isEmpty && part != "."
  (if name.toList.head? = some '/' then "/" else "") ++ "/".intercalate parts.dropLast

example : (ofName? "file:kept/a%20b.db?mode=ro#top") =
    some (.file { path := bytesOf "kept/a b.db", access := .readOnly }) := by decide +kernel

example : (ofName? "file:p.db?vfs=unix-dotfile&nolock=no&nolock=yes") =
    some (.file { path := bytesOf "p.db", locking := .beside }) := by decide +kernel

example : [ofName? "", ofName? ":memory:", ofName? "file:p.db?mode=memory"].all
    (· == some .nowhere) := by decide +kernel

example : ofName? "file://far/p.db" = none := by decide +kernel

end Place

end Archive

end StudyPlan
