import StudyPlan.Archive.Companions

/-!
# Archives in use

To use the archive of a name, first the folder of the name is made, and then the
file is looked for by its path.

* A file of at most one byte, and one that has just been made, is blank.  An
  empty archive is written to it, unless it must not be written, which makes it
  unusable.
* A file that holds something else is never overwritten.
* The files beside it are put in order before it is read.
* A file that never changes is not written, and nothing beside it counts.

What was done to files before a step that fails stays done.
-/

namespace StudyPlan

namespace Archive

/-- Where the changes of an archive in use go. -/
inductive Target where
  /-- They are not kept. -/
  | nowhere
  /-- To a file. -/
  | file (path : Path)
  /-- To the log of a file, and from there to the file. -/
  | logged (path : Path)
  /-- There must be none. -/
  | fixed
deriving DecidableEq, Repr

/-- An archive in use. -/
structure Opened where
  /-- The archive. -/
  archive : Archive
  /-- Where its changes go. -/
  target : Target
deriving DecidableEq, Repr

variable {m : Type → Type} [Monad m]

namespace Shelf

/-- The path of a written one, if nothing on the way to it is in the way. -/
def reach (files : Files m) (written : List UInt8) : OptionT m Path := do
  let start := Path.startOf (← files.here) written
  let names := Path.namesOf written
  let path := start.follow names
  let trail := start.trail names
  guard (trail.all Path.isWalkable && path.canHoldFile)
  let found ← (trail.mapM files.lookAt : m (List Found))
  guard (found.all (· != .blocked))
  return path

/-- What is in the file of an archive, which is made if it may be. -/
def content (files : Files m) (access : Access) (path : Path) : OptionT m Content := do
  match ← files.lookAt path with
  | .archive a => return .archive a
  | .text s => return if s.utf8ByteSize ≤ 1 then .blank else .foreign
  | .nothing =>
    guard (access = .orNew)
    guard (← files.writeText path "")
    return .blank
  | _ => failure

/-- Where the changes of the archive in a file go. -/
def target (s : Shelf) (path : Path) (isLogged : Bool) : Target :=
  if s.access = .readOnly then .fixed else if isLogged then .logged path else .file path

/-- The archive of a file, taken into use. -/
def opened (files : Files m) (s : Shelf) : OptionT m Opened := do
  let path ← reach files s.path
  if let some model := s.model then guard (← files.isThere model)
  let content ← content files s.access path
  if s.isFixed then
    match content with
    | .archive archive => return ⟨archive, .fixed⟩
    | _ => failure
  else
    takeLock files s path
    settleJournal files s path content
    let isLogged ← settleLog files s path content
    match content with
    | .archive archive => return ⟨archive, s.target path isLogged⟩
    | .foreign => failure
    | .blank =>
      guard (s.access ≠ .readOnly)
      guard (← (write files path {} : m Bool))
      return ⟨{}, .file path⟩

end Shelf

namespace Opened

/-- The archive of a name, taken into use. -/
def ofName (files : Files m) (name : String) : OptionT m Opened := do
  let folder := Place.folderOf name
  unless folder.isEmpty do guard (← files.makeFolder folder)
  match Place.ofName? name with
  | some .nowhere => return ⟨{}, .nowhere⟩
  | some (.file shelf) => shelf.opened files
  | none => failure

/-- An archive takes the place of the one in use. -/
def put (files : Files m) (o : Opened) (archive : Archive) : m Bool :=
  match o.target with
  | .nowhere => pure true
  | .file path => Shelf.write files path archive
  | .logged path => files.write path archive
  | .fixed => pure false

end Opened

end Archive

end StudyPlan
