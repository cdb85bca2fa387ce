import StudyPlan.Archive.Path
import StudyPlan.Text.Digit

/-!
# Addresses

An address is `file:`, a host, a path, parameters and a fragment, as in
`file://localhost/kept/plans.db?mode=ro#top`.  All but the path may be missing.

* The host stands between two slashes and the next one.  Only this machine is
  one: no name at all, or `localhost`.
* Parameters follow a question mark, with `&` between them, and have a name, an
  equals sign and a value.
* The fragment says nothing.
* In the path, a name and a value, `%` and two hexadecimal digits stand for a
  byte.  A byte 0 ends the part it stands in.

These parameters say something, and others say nothing.

* `mode` says how the file is used.  A later one may not ask for more than the
  one before it allows, except after `memory`.
* `vfs` names the file system.  The last one counts.
* `cache` is `shared` or `private`, which changes nothing here.
* `immutable` says that the file never changes, `nolock` that it is used without
  a lock, and `readonly_shm` that the file which users of a log share is only
  read.  The first one counts, and says yes or no (`saysYes`).
* `modeof` names a file whose permissions a new file gets.  The first one counts.
-/

namespace StudyPlan

namespace Archive

namespace Address

/-! ## Parts -/

/-- The bytes that a part spells. -/
def spelled : List Char → List UInt8
  | [] => []
  | '%' :: a :: b :: rest =>
    match Text.hexDigit? a, Text.hexDigit? b with
    | some x, some y =>
      if 16 * x + y = 0 then [] else UInt8.ofNat (16 * x + y) :: spelled rest
    | _, _ => String.utf8EncodeChar '%' ++ spelled (a :: b :: rest)
  | c :: rest => String.utf8EncodeChar c ++ spelled rest

/-- The characters before a mark and those after it; none after it if there is no mark. -/
def cut (mark : Char) (cs : List Char) : List Char × List Char :=
  (cs.takeWhile (· != mark), (cs.dropWhile (· != mark)).drop 1)

/-- What follows the host, if the host is this machine. -/
def afterHost? : List Char → Option (List Char)
  | '/' :: '/' :: cs =>
    let host := cs.takeWhile (· != '/')
    if host.isEmpty ∨ host = "localhost".toList then some (cs.dropWhile (· != '/')) else none
  | cs => some cs

/-! ## Yes and no -/

/-- The number at the front of a value, in decimal digits or in hexadecimal ones
after `0x`. -/
def leadingNumber (cs : List Char) : Nat :=
  let decimal := Text.digitsValue 0 (cs.takeWhile Text.isAsciiDigit)
  match cs with
  | '0' :: x :: rest =>
    let digits := (rest.map Text.hexDigit?).takeWhile Option.isSome
    if (x = 'x' ∨ x = 'X') ∧ !digits.isEmpty then
      digits.foldl (fun n d => 16 * n + d.getD 0) 0
    else decimal
  | _ => decimal

/-- A value says yes: `on`, `yes` and `true` in letters of any case do, and a
number does if it fits 32 bits with a sign and its last byte is not 0. -/
def saysYes (value : List UInt8) : Bool :=
  let cs := value.map fun b => Char.ofNat b.toNat
  match cs with
  | [] => false
  | c :: _ =>
    if Text.isAsciiDigit c then
      let n := leadingNumber cs
      decide (n < 0x80000000) && n % 256 != 0
    else ["on", "yes", "true"].contains (String.ofList (cs.map Char.toLower))

example : ["1", "2", "0x10", "257", "1x", "On", "TRUE"].all
    (fun value => saysYes (bytesOf value)) := by decide

example : ["", "0", "00", "256", "0x", "0x100", "2147483648", "no", "full", "-1"].all
    (fun value => !saysYes (bytesOf value)) := by decide

/-! ## Parameters -/

/-- What a parameter `mode` asks for. -/
inductive Mode where
  /-- To read only. -/
  | readOnly
  /-- To read and write a file that is there. -/
  | existing
  /-- To read and write, and to make the file. -/
  | orNew
  /-- To use no file. -/
  | memory
deriving DecidableEq, Repr

/-- The modes by name. -/
def Mode.names : List (String × Mode) :=
  [("ro", .readOnly), ("rw", .existing), ("rwc", .orNew), ("memory", .memory)]

/-- How much a mode asks for. -/
def Mode.level : Mode → Nat
  | .memory => 0
  | .readOnly => 1
  | .existing => 2
  | .orNew => 3

/-- A mode may follow another. -/
def Mode.allows (old new : Mode) : Bool := old == .memory || decide (new.level ≤ old.level)

/-- What the parameters say. -/
structure Options where
  /-- How the file is used. -/
  mode : Mode := .orNew
  /-- The name of the file system. -/
  system : List UInt8 := bytesOf "unix"
  /-- The file never changes. -/
  isFixed : Option Bool := none
  /-- The file is used without a lock. -/
  isUnlocked : Option Bool := none
  /-- The file which users of a log share is only read. -/
  isShareFixed : Option Bool := none
  /-- The file whose permissions a new file gets. -/
  model : Option (List UInt8) := none
deriving DecidableEq, Repr

/-- The options with one more parameter. -/
def Options.set? (o : Options) (name value : List UInt8) : Option Options :=
  if name = bytesOf "vfs" then some { o with system := value }
  else if name = bytesOf "cache" then
    if value = bytesOf "shared" ∨ value = bytesOf "private" then some o else none
  else if name = bytesOf "mode" then
    match Mode.names.find? fun named => bytesOf named.1 == value with
    | some (_, mode) => if o.mode.allows mode then some { o with mode } else none
    | none => none
  else if name = bytesOf "immutable" then
    some { o with isFixed := o.isFixed.or (saysYes value) }
  else if name = bytesOf "nolock" then
    some { o with isUnlocked := o.isUnlocked.or (saysYes value) }
  else if name = bytesOf "readonly_shm" then
    some { o with isShareFixed := o.isShareFixed.or (saysYes value) }
  else if name = bytesOf "modeof" then some { o with model := o.model.or value }
  else some o

/-- The options that some parameters give. -/
def Options.ofParameters? (parameters : List Char) : Option Options :=
  (parameters.splitOn '&').foldlM
    (fun o p =>
      let (name, value) := cut '=' p
      o.set? (spelled name) (spelled value))
    {}

end Address

/-- An address. -/
structure Address where
  /-- The written path. -/
  path : List UInt8
  /-- What the parameters say. -/
  options : Address.Options
deriving DecidableEq, Repr

/-- The address that is given without `file:`. -/
def Address.ofChars? (cs : List Char) : Option Address := do
  let cs ← afterHost? cs
  let (path, parameters) := cut '?' (cut '#' cs).1
  return ⟨spelled path, ← Options.ofParameters? parameters⟩

end Archive

end StudyPlan
