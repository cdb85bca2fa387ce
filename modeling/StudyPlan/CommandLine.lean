import StudyPlan.Archive.Opened
import StudyPlan.Plan.Check
import StudyPlan.Plan.Draft
import StudyPlan.Chance.ChaCha
import StudyPlan.Settings.EnvFile

/-!
# The command line

The arguments are options of all commands (`-c`, `--db`), a command, and its own
arguments and options.

* `build` drafts a plan from files of programs, prints it and, if asked to,
  keeps it.
* `show` prints a kept plan, and `check` prints the judgements of its courses.
* `help` tells how the program, or one command, is used.

A short option may have its value in the same argument (`-tTitle`, `-t=Title`),
and a long one after an equals sign.  An option is given at most once, a value
in an argument of its own does not start with a dash, and a path is not empty.
After `--` every argument is a plain one.

`parse` reads the arguments, and `respond` answers them.  What it needs from
outside (`Outside`) is handed to it in any monad, so that all that is left to do
is to read, to write and to print.  The archive is taken into use after the
catalogue and the programs are read, and only if it is needed.  What was done to
files before a step that fails stays done.
-/

namespace StudyPlan

namespace CommandLine

/-! ## Arguments -/

/-- What `build` is told. -/
structure BuildOptions where
  /-- The files of programs. -/
  programs : List String := []
  /-- The title of the plan. -/
  title : Option String := none
  /-- Whose plan it is. -/
  user : Option String := none
  /-- The seed of random choices. -/
  seed : Option Nat := none
  /-- The plan is to be kept. -/
  save : Bool := false
deriving DecidableEq, Repr

/-- A command. -/
inductive Command where
  /-- Draft a plan. -/
  | build (options : BuildOptions)
  /-- Print a kept plan. -/
  | show (id : String)
  /-- Print the judgements of a kept plan. -/
  | check (id : String)
deriving DecidableEq, Repr

/-- The options of all commands. -/
structure CommonOptions where
  /-- The file of the catalogue. -/
  catalog : Option String := none
  /-- The file of the archive, instead of the one of the settings. -/
  archive : Option String := none
deriving DecidableEq, Repr

/-- A request: options and a command. -/
structure Request where
  /-- The options of all commands. -/
  common : CommonOptions
  /-- The command. -/
  command : Command
deriving DecidableEq, Repr

/-- What the arguments ask for. -/
inductive Parsed where
  /-- A request. -/
  | request (r : Request)
  /-- How the program is used. -/
  | help
  /-- Which version the program is. -/
  | version
  /-- The arguments are not understood. -/
  | misused
deriving DecidableEq, Repr

/-- An argument that is not plain. -/
inductive Flag where
  /-- A long option, and a value after an equals sign. -/
  | long (name : List Char) (value : Option (List Char))
  /-- A short option, and what stands right after it. -/
  | short (name : Char) (attached : List Char)
deriving DecidableEq, Repr

/-- The option that an argument is, if it is one.  A lone dash is a plain argument. -/
def flag? (arg : String) : Option Flag :=
  match arg.toList with
  | '-' :: '-' :: cs =>
    match cs.dropWhile (· != '=') with
    | '=' :: value => some (.long (cs.takeWhile (· != '=')) (some value))
    | _ => some (.long cs none)
  | '-' :: c :: cs => some (.short c cs)
  | _ => none

/-- The name of an option that takes a value, and the value in the same argument. -/
def Flag.valued (shorts : List (Char × String)) : Flag → Option (String × Option String)
  | .long name value => some (String.ofList name, value.map String.ofList)
  | .short c attached =>
    (shorts.lookup c).map fun name =>
      match attached with
      | [] => (name, none)
      | '=' :: value => (name, some (String.ofList value))
      | value => (name, some (String.ofList value))

/-- The value of an option: the one in the same argument, or the next argument
if it is plain. -/
def takeValue (inSame : Option String) (rest : List String) : Option (String × List String) :=
  match inSame, rest with
  | some v, rest => some (v, rest)
  | none, v :: rest => if (flag? v).isSome then none else some (v, rest)
  | none, [] => none

/-- An option is set for the first time. -/
def setOnce (old : Option α) (v : α) : Option (Option α) := if old.isSome then none else some v

/-- A path that is not empty. -/
def path? (s : String) : Option String := if s.isEmpty then none else some s

/-- `build` with one more option. -/
def BuildOptions.set? (o : BuildOptions) (name value : String) : Option BuildOptions :=
  if name = "title" then (setOnce o.title value).map fun title => { o with title }
  else if name = "user" then (setOnce o.user value).map fun user => { o with user }
  else if name = "seed" then do
    let n ← Settings.readNat? (UInt64.size - 1) value
    let seed ← setOnce o.seed n
    return { o with seed }
  else none

/-- The rest of `build` after a double dash: plain arguments only. -/
def BuildOptions.plain? (o : BuildOptions) (args : List String) : Option BuildOptions :=
  (args.mapM path?).map fun paths => { o with programs := o.programs ++ paths }

/-- The option asks how the program is used. -/
def Flag.isHelp : Flag → Bool
  | .long name value => name == "help".toList && value.isNone
  | .short c _ => c == 'h'

/-- The arguments of `build`.  Each takes at least one off the list, whose
length is what is counted down. -/
def parseBuild (common : CommonOptions) : Nat → BuildOptions → List String → Parsed
  | 0, _, _ => .misused
  | _ + 1, o, [] =>
    if o.programs.isEmpty then .misused else .request ⟨common, .build o⟩
  | fuel + 1, o, arg :: rest =>
    match flag? arg with
    | none =>
      match path? arg with
      | some p => parseBuild common fuel { o with programs := o.programs ++ [p] } rest
      | none => .misused
    | some f =>
      if f.isHelp then .help
      else if f = .long [] none then
        match o.plain? rest with
        | some o => parseBuild common fuel o []
        | none => .misused
      else if f = .long "save".toList none then
        if o.save then .misused else parseBuild common fuel { o with save := true } rest
      else
        match f.valued [('t', "title"), ('u', "user")] with
        | none => .misused
        | some (name, inSame) =>
          match takeValue inSame rest with
          | none => .misused
          | some (value, rest) =>
            match o.set? name value with
            | some o => parseBuild common fuel o rest
            | none => .misused

/-- The name of a plan, the one argument of a command. -/
def parseId (make : String → Request) : List String → Parsed
  | [] => .misused
  | [arg] =>
    match flag? arg with
    | none => .request (make arg)
    | some f => if f.isHelp then .help else .misused
  | arg :: other :: rest =>
    match flag? arg with
    | some f =>
      if f.isHelp then .help
      else if f = .long [] none ∧ rest.isEmpty then .request (make other)
      else .misused
    | none =>
      match flag? other with
      | some f =>
        if f.isHelp then .help
        else if f = .long [] none ∧ rest.isEmpty then .request (make arg)
        else .misused
      | none => .misused

/-- The names of the commands. -/
def commandNames : List String := ["build", "show", "check", "help"]

/-- The arguments of `help`: nothing, or the name of a command. -/
def parseHelp : List String → Parsed
  | [] => .help
  | [name] => if commandNames.contains name then .help else .misused
  | _ => .misused

/-- A command and its arguments. -/
def parseCommand (common : CommonOptions) (name : String) (args : List String) : Parsed :=
  if name = "build" then parseBuild common (args.length + 2) {} args
  else if name = "show" then parseId (fun id => ⟨common, .show id⟩) args
  else if name = "check" then parseId (fun id => ⟨common, .check id⟩) args
  else if name = "help" then parseHelp args
  else .misused

/-- The options with one more. -/
def CommonOptions.set? (o : CommonOptions) (name value : String) : Option CommonOptions := do
  let path ← path? value
  if name = "catalog" then return { o with catalog := ← setOnce o.catalog path }
  else if name = "db" then return { o with archive := ← setOnce o.archive path }
  else none

/-- The options of all commands, and then a command. -/
def parseFrom : Nat → CommonOptions → List String → Parsed
  | 0, _, _ => .misused
  | _ + 1, _, [] => .misused
  | fuel + 1, o, arg :: rest =>
    match flag? arg with
    | none => parseCommand o arg rest
    | some f =>
      if f.isHelp then .help
      else if f = .long "version".toList none then .version
      else
        match f with
        | .short 'V' _ => .version
        | f =>
          match f.valued [('c', "catalog")] with
          | none => .misused
          | some (name, inSame) =>
            match takeValue inSame rest with
            | none => .misused
            | some (value, rest) =>
              match o.set? name value with
              | some o => parseFrom fuel o rest
              | none => .misused

/-- What the arguments ask for. -/
def parse (args : List String) : Parsed := parseFrom (args.length + 1) {} args

/-! ## Fixed texts -/

/-- Which version the program is. -/
def versionText : String := "degreeplan 0.1.0"

/-- How the program is used. -/
def helpText : String :=
  "Degree plan builder and checker\n\n" ++
  "Usage: degreeplan [OPTIONS] <COMMAND>\n\n" ++
  "Commands:\n" ++
  "  build  Build a plan from specialization files and print it as JSON\n" ++
  "  show   Print a stored plan as JSON\n" ++
  "  check  Print the prerequisite report of a stored plan\n\n" ++
  "Options:\n" ++
  "  -c, --catalog <CATALOG>  Catalog JSON file (array of courses)\n" ++
  "      --db <DB>            Database of stored plans"

/-! ## Answers -/

/-- What a request needs from outside. -/
structure Outside (m : Type → Type) extends Archive.Files m where
  /-- The text of a file. -/
  fileText : String → m (Option String)
  /-- The value of a variable of the environment. -/
  valueOf : String → m (Option String)
  /-- The time, for the name of a new plan. -/
  time : m String
  /-- The random words for a plan without a seed. -/
  entropy : m Chance.Source

/-- How the program ends. -/
structure Response where
  /-- The number that the program ends with. -/
  code : Nat
  /-- The text of the answer. -/
  answer : Option String := none
  /-- The text of the complaint. -/
  complaint : Option String := none
deriving DecidableEq, Repr

/-- The arguments were answered. -/
def Response.success (answer : String) : Response := { code := 0, answer }

/-- The arguments were not answered. -/
def Response.failure (code : Nat) (complaint : String) : Response := { code, complaint }

variable {m : Type → Type} [Monad m]

/-- The paths of a file of variables, from the folder of work up to the root. -/
def envPaths (here : Archive.Path) : List String :=
  (List.range (here.names.length + 1)).map fun n =>
    String.join (List.replicate n "../") ++ ".env"

/-- The settings of the environment and of the nearest file of variables. -/
def readSettings (out : Outside m) : m (Option Settings) := do
  let file ← (envPaths (← out.here)).findSomeM? out.fileText
  let lines := EnvFile.linesOf (file.getD "")
  let names := Settings.variableNames ++ EnvFile.namesIn lines
  let known ← names.filterMapM fun name => return (← out.valueOf name).map (name, ·)
  return (EnvFile.extend? known lines).map fun all => Settings.ofVariables all.value?

/-- What is read from a file. -/
def readFrom (out : Outside m) (ofText? : String → Option α) (path : String) :
    ExceptT PlanningError m α := do
  match ← out.fileText path with
  | none => throw (.noFile path)
  | some s =>
    match ofText? s with
    | some x => return x
    | none => throw .unreadable

/-- The archive of a name, taken into use. -/
def openArchive (out : Outside m) (name : String) : ExceptT PlanningError m Archive.Opened := do
  match ← (Archive.Opened.ofName out.toFiles name).run with
  | some opened => return opened
  | none => throw (.noFile name)

/-- A plan is kept in the archive of a name. -/
def keep (out : Outside m) (archiveName : String) (plan : Plan) :
    ExceptT PlanningError m Unit := do
  let opened ← openArchive out archiveName
  let archive ← ofExcept (opened.archive.save plan)
  let isKept ← (opened.put out.toFiles archive : m Bool)
  unless isKept do throw (.noFile archiveName)

/-- The text that `build` prints. -/
def build (settings : Settings) (out : Outside m) (catalog : Catalog) (archiveName : String)
    (o : BuildOptions) : ExceptT PlanningError m String := do
  let programs ← o.programs.mapM (readFrom out Program.ofText?)
  let source ←
    match o.seed.or settings.seed with
    | some seed => pure (Chance.Source.ofSeed seed)
    | none => out.entropy
  let plan :=
    (Plan.draft catalog settings (← out.time) (o.title.getD "My plan") o.user programs source).plan
  if o.save then keep out archiveName plan
  return plan.toText

/-- A kept plan. -/
def kept (out : Outside m) (catalog : Catalog) (archiveName id : String) :
    ExceptT PlanningError m Plan := do
  let opened ← openArchive out archiveName
  match ← ofExcept (opened.archive.load catalog id) with
  | some plan => return plan
  | none => throw (.noPlan id)

/-- The text that answers a request. -/
def run (settings : Settings) (out : Outside m) (r : Request) :
    ExceptT PlanningError m String := do
  let catalog ← readFrom out Catalog.ofText? (r.common.catalog.getD "data/catalog.json")
  let archiveName := r.common.archive.getD settings.archivePath
  match r.command with
  | .build o => build settings out catalog archiveName o
  | .show id => return (← kept out catalog archiveName id).toText
  | .check id =>
    let plan ← kept out catalog archiveName id
    return (Json.array (plan.check.map CourseCheck.toJson)).pretty

/-- The response to arguments: 2 if they are not understood, 101 if the variables
are not usable, and 1 if the request fails. -/
def respond (out : Outside m) (args : List String) : m Response := do
  match parse args with
  | .help => return .success helpText
  | .version => return .success versionText
  | .misused => return .failure 2 helpText
  | .request r =>
    match ← readSettings out with
    | none => return .failure 101 "a variable is set to a text with a zero character"
    | some settings =>
      match ← (run settings out r).run with
      | .ok text => return .success text
      | .error e => return .failure 1 e.message

end CommandLine

end StudyPlan
