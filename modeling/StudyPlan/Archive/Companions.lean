import StudyPlan.Archive.Files
import StudyPlan.Archive.Place

/-!
# The files beside an archive

Four files may stand beside the file of an archive, under its name and an ending
of their own.

* `.lock` is the lock, where it is kept beside the file.  Nothing may be there
  when it is taken.
* `-journal` is the journal of a write, and gone when the write is done.
* `-wal` is a log that changes go to before they reach the file.
* `-shm` is what the users of the log share.

A write that breaks off leaves a journal or a log.  They are put in order when
the file is taken into use, first the journal (`settleJournal`) and then the log
(`settleLog`), whatever the file itself turns out to hold.  An empty file is
nothing here, and a folder is in the way.

*Journals.*  A journal beside a blank file is taken away, if the file can be
locked for it.  Beside any other file it counts if it is marked, that is, if its
first byte is not zero.  It is then taken away, which a file that is only read
does not allow.  No journal counts while somebody seems to hold the lock, and a
lock beside the file looks like that to the one who took it.

*Logs.*  A log beside a blank file is taken away.  Beside any other file it is
used, which takes a lock on the file.  Its users share a file that all of them
write, unless the whole file is locked.  When the log is no longer used both go,
but a file that is only read leaves both: the log as it was, and the shared file
written over.
-/

namespace StudyPlan

namespace Archive

/-- What is in the file of an archive. -/
inductive Content where
  /-- Nothing yet. -/
  | blank
  /-- Something that is not an archive. -/
  | foreign
  /-- An archive. -/
  | archive (a : Archive)
deriving DecidableEq, Repr

/-! ## What a file system does -/

namespace Shelf

/-- The lock is taken beside the file. -/
def locksBeside (s : Shelf) : Bool := s.locking == .beside && !s.isUnlocked

/-- The file can be locked to write what is beside it. -/
def locksToWrite (s : Shelf) : Bool :=
  s.access != .readOnly || s.isUnlocked || s.locking == .nowhere

/-- A log can be used. -/
def hasLog (s : Shelf) : Bool :=
  (s.locking == .parts || s.locking == .whole) && !s.isUnlocked

/-- The users of a log share a file. -/
def sharesLog (s : Shelf) : Bool := s.locking == .parts || s.access == .readOnly

end Shelf

/-! ## Steps -/

/-- What is written to a shared file. -/
def sharedText : String := "shared"

namespace Shelf

variable {m : Type → Type} [Monad m]

/-- The lock beside a file is taken, if there is to be one. -/
def takeLock (files : Files m) (s : Shelf) (path : Path) : OptionT m Unit := do
  if s.locksBeside then guard ((← files.lookAt (path.beside ".lock")) == .nothing)

/-- Somebody seems to hold the lock on a file. -/
def seemsLocked (files : Files m) (s : Shelf) (path : Path) : m Bool := do
  if s.locksBeside then return true
  if s.locking != .beside then return false
  return (← files.lookAt (path.beside ".lock")).isThere

/-- The journal beside a file is put in order. -/
def settleJournal (files : Files m) (s : Shelf) (path : Path) (content : Content) :
    OptionT m Unit := do
  let journal := path.beside "-journal"
  let found ← files.lookAt journal
  let isHeld ← (seemsLocked files s path : m Bool)
  if found.isTaken && !isHeld then
    if content = .blank then
      if s.locksToWrite then files.remove journal
    else
      guard (found != .folder)
      if found.isMarked then
        guard (s.access ≠ .readOnly)
        files.remove journal

/-- The file that the users of a log share is written, and gone when the file
was not only read. -/
def share (files : Files m) (s : Shelf) (path : Path) : OptionT m Unit := do
  let shared := path.beside "-shm"
  guard (!s.isShareFixed)
  guard (← files.writeText shared sharedText)
  if s.access ≠ .readOnly then files.remove shared

/-- The log beside a file is put in order.  Says whether it is used. -/
def settleLog (files : Files m) (s : Shelf) (path : Path) (content : Content) :
    OptionT m Bool := do
  let log := path.beside "-wal"
  let found ← files.lookAt log
  if !found.isTaken then return false
  guard (found != .folder)
  if content = .blank then
    files.remove log
    return false
  guard s.hasLog
  if s.sharesLog then share files s path
  if s.access ≠ .readOnly then files.remove log
  return true

/-- An archive is written to a file, without a log. -/
def write (files : Files m) (path : Path) (archive : Archive) : m Bool := do
  let journal := path.beside "-journal"
  let found ← files.lookAt journal
  if found == .folder || found == .blocked then return false
  files.remove journal
  files.write path archive

end Shelf

end Archive

end StudyPlan
