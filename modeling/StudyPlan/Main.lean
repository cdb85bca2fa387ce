import StudyPlan.CommandLine

/-!
# The program

Hands the arguments to `CommandLine.respond`, with the files, the variables, the
clock and the random words of this machine, and prints the response.
-/

namespace StudyPlan

namespace Console

/-- The text of a path, if it is one. -/
def textOf? (path : Archive.Path) : Option String :=
  let bytes := path.names.flatMap fun name => Archive.Path.slash :: name
  String.fromUTF8? ⟨(if bytes.isEmpty then [Archive.Path.slash] else bytes).toArray⟩

/-- The folder of work. -/
def here : IO Archive.Path := do
  return ⟨Archive.Path.namesOf (Archive.bytesOf (← IO.currentDir).toString)⟩

/-- The text of a file. -/
def fileText (path : String) : IO (Option String) := do
  try return some (← IO.FS.readFile path)
  catch _ => return none

/-- The code of the failure to read a folder. -/
def folderCode : UInt32 := 21

/-- What bytes in a file are.  Of bytes that are no text only the number counts. -/
def foundOf (data : ByteArray) : Archive.Found :=
  match String.fromUTF8? data with
  | none => .text (String.ofList (List.replicate data.size '?'))
  | some s =>
    match Archive.ofText? s with
    | some archive => .archive archive
    | none => .text s

/-- What is found at a written path. -/
def look (path : String) : IO Archive.Found := do
  try return foundOf (← IO.FS.readBinFile path)
  catch
  | .noFileOrDirectory .. => return .nothing
  | .inappropriateType _ code _ => return if code = folderCode then .folder else .blocked
  | _ => return .blocked

/-- What is found at a path. -/
def lookAt (path : Archive.Path) : IO Archive.Found :=
  match textOf? path with
  | some path => look path
  | none => return .blocked

/-- Something is found at a written path. -/
def isThere (path : String) : IO Bool := do
  match ← look path with
  | .nothing => return false
  | .blocked => return false
  | _ => return true

/-- An action succeeds. -/
def succeeds (action : IO Unit) : IO Bool := do
  try
    action
    return true
  catch _ => return false

/-- An action on a path succeeds. -/
def succeedsAt (path : Archive.Path) (action : String → IO Unit) : IO Bool :=
  match textOf? path with
  | some path => succeeds (action path)
  | none => return false

/-- A folder is made, if nothing is there. -/
def makeFolder (path : String) : IO Bool := do
  if ← isThere path then return true
  succeeds (IO.FS.createDirAll path)

/-- An archive is written to a file. -/
def write (path : Archive.Path) (archive : Archive) : IO Bool :=
  match archive.toText with
  | .ok text => succeedsAt path (IO.FS.writeFile · text)
  | .error _ => return false

/-- The text of a clock: fourteen digits. -/
def clock : IO String := do
  let now ← IO.monoMsNow
  let digits := Nat.toDigits 10 now
  return String.ofList (List.replicate (14 - digits.length) '0' ++ digits)

/-- Random words. -/
def entropy : IO Chance.Source := do
  let bytes ← IO.getRandomBytes 8
  return Chance.Source.ofSeed (bytes.toList.foldl (fun n b => 256 * n + b.toNat) 0)

/-- This machine. -/
def outside : CommandLine.Outside IO where
  here
  lookAt
  isThere := fun written =>
    match String.fromUTF8? ⟨written.toArray⟩ with
    | some path => isThere path
    | none => return false
  makeFolder
  writeText := fun path text => succeedsAt path (IO.FS.writeFile · text)
  write
  remove := fun path => discard (succeedsAt path (IO.FS.removeFile ·))
  fileText
  valueOf := fun name => IO.getEnv name
  time := clock
  entropy

end Console

end StudyPlan

/-- The program. -/
def main (args : List String) : IO UInt32 := do
  let response ← StudyPlan.CommandLine.respond StudyPlan.Console.outside args
  if let some text := response.answer then IO.println text
  if let some text := response.complaint then IO.eprintln text
  return response.code.toUInt32
