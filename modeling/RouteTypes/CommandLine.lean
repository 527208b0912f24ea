import RouteTypes.CommandLine.Words
import RouteTypes.DataDirectory
import RouteTypes.Generator

/-!
# The command line

A run of the program: the settings are resolved, the contract is loaded, narrowed and compiled
(`prepare`), and only then something is written (`deliver`). A failure of a documented category
ends the run with a message and the status of the category. Any other failure is a crash: a
report is kept in the data directory.
-/

namespace RouteTypes.CommandLine

/-- The name and version of the program. -/
def versionText : String := "apitypes 0.3.0"

/-- How the program is called. -/
def usageText : String :=
  "Usage: apitypes [OPTIONS]\nTry 'apitypes --help' for help.\n"

/-- The location of a contract that references are relative to. Standard input has none. -/
def locationOf (settings : Settings) : Option String :=
  ((filled? settings.contractAddress).or settings.contractFile).filter (· != "-")

/-- Compiles the part of the contract that the settings ask for. Nothing is written. -/
def prepare (settings : Settings) : Run Compiled := do
  let files := (← get).host.files
  let rules ← Run.ofExcept ((settings.rules files).mapError .selection)
  let document ← Run.load fun host =>
    Contract.loadFrom host settings.contractFile settings.contractAddress
  let generator ← Generator.create document (locationOf settings)
  let generator := generator.narrow (some (.rules rules))
  Run.say .debug s!"Compiling {generator.contract.paths.length} paths"
  generator.compiledBy settings.compiler

/-- Writes the schema, where a file is given for it, and then the declarations. -/
def deliver (settings : Settings) (compiled : Compiled) : Run Unit := do
  match filled? settings.schemaOutput with
  | some path =>
    compiled.writeSchema (.file path) (some settings.schemaIndent)
    Run.say .success s!"Wrote JSON schema to {path}"
  | none => pure ()
  match filled? settings.output with
  | some path =>
    compiled.write (.file path)
    Run.say .success s!"Wrote declarations to {path}"
  | none => compiled.write .output

/-- The settings of a run. -/
def settle (arguments : Arguments) : Run Settings := do
  Run.ofExcept ((Settings.resolve (← get).host arguments).mapError .layer)

/-- A run with arguments. -/
def generate (arguments : Arguments) : Run Unit := do
  let settings ← settle arguments
  let compiled ← prepare settings
  deliver settings compiled

/-- Why a run has no status: no place for the report on a crash, or a run that stands still. -/
inductive NoStatus where
  | report (fault : FileFault)
  | endless
  deriving DecidableEq, Repr

/-- How a run ends: its status, if it has one, and the world afterwards. -/
structure Outcome where
  status : Except NoStatus Nat
  world : World

/-- Shows a message after a run. -/
def showAfter (world : World) (level : Level) (message : String) : World :=
  { world with messages := world.messages ++ world.diagnostics.render level message }

/-- The report on a crash. -/
def crashReport (failure : Failure) : String :=
  failure.message ++ "\n"

/-- Keeps a report on a crash at a moment: the files and the path of the report. -/
def keepReport (host : Host) (moment report : String) :
    FileSystem × Except FileFault FilePath :=
  match host.makeDataDirectory with
  | (host, .error fault) => (host.files, .error fault)
  | (host, .ok directory) =>
    let path := (directory.join (FilePath.ofString "logs")).join
      (FilePath.ofString s!"crash-{moment}.log")
    match host.files.save path (Utf8.encodeString report) with
    | (files, .error fault) => (files, .error fault)
    | (files, .ok ()) => (files, .ok path)

/-- Ends a run that has crashed at a moment. -/
def endCrashed (moment : String) (failure : Failure) (world : World) : Outcome :=
  match keepReport world.host moment (crashReport failure) with
  | (files, .error fault) => ⟨.error (.report fault), world.withFiles files⟩
  | (files, .ok path) =>
    ⟨.ok 1, showAfter (world.withFiles files) .error
      s!"Unexpected error. Debug log: {path.toString}"⟩

/-- Ends a run that has failed at a moment. -/
def endFailed (moment : String) (failure : Failure) (world : World) : Outcome :=
  match failure.category with
  | .crash .endless => ⟨.error .endless, world⟩
  | .crash _ => endCrashed moment failure world
  | category => ⟨.ok category.status, showAfter world .error failure.message⟩

/-- Runs with arguments, up to its end at a moment. -/
def runArguments (arguments : Arguments) (moment : String) (world : World) : Outcome :=
  match (generate arguments).run.run world with
  | (.ok (), world) => ⟨.ok 0, world⟩
  | (.error failure, world) => endFailed moment failure world

/-- A message in a frame of the width of the terminal. -/
def framed (width : Nat) (message : String) : String :=
  let line (count : Nat) := String.ofList (List.replicate count '─')
  let inner := width - 4
  let shown (text : List Char) :=
    "│ " ++ String.ofList text ++ String.ofList (List.replicate (inner - Text.width text) ' ') ++
      " │\n"
  "╭─ Error " ++ line (width - 10) ++ "╮\n" ++
    String.join ((Text.wrap inner message.toList).map shown) ++
    "╰" ++ line (width - 2) ++ "╯\n"

/-- What is shown about wrong words. How the program is called is shown with those that do not
belong to an option. -/
def usageMessage (width : Nat) (fault : UsageFault) : String :=
  let report := framed width fault.message
  match fault with
  | .noValue _ => report
  | .withValue _ => report
  | _ => usageText ++ report

/-- Ends a run because of wrong words. -/
def endUsage (fault : UsageFault) (world : World) : Outcome :=
  ⟨.ok 2, { world with
    messages := world.messages ++ usageMessage world.diagnostics.width fault }⟩

/-- Ends a run with a text on the output. -/
def endShowing (text : String) (world : World) : Outcome :=
  ⟨.ok 0, { world with output := (world.output.write text).1 }⟩

/-- What is shown instead of a run where an option asks for it. -/
def immediateText : Given → Option String
  | .flag .version => some (versionText ++ "\n")
  | .flag .help => some usageText
  | _ => none

/-- A run with the words of a command line reads standard input. -/
def readsInput (host : Host) (words : List String) : Bool :=
  match readWords words with
  | .error _ => false
  | .ok words =>
    match Settings.resolve host words.arguments with
    | .error _ => false
    | .ok settings => settings.contractFile == some "-" || settings.contractAddress == some "-"

/-- Runs the program with the words of the command line. A crash happens at the given moment. -/
def run (host : Host) (moment : String) (words : List String) : Outcome :=
  let world := World.start host (.default host.environment host.emoji)
  match readWords words with
  | .error fault => endUsage fault world
  | .ok words =>
    match words.given.findSome? immediateText with
    | some text => endShowing text world
    | none =>
      if !words.extra.isEmpty then endUsage (.unexpected words.extra) world
      else
        let diagnostics := Diagnostics.create host.environment host.emoji (words.has .plain)
          (words.has .quiet) (words.has .verbose)
        runArguments words.arguments moment (.start host diagnostics)

end RouteTypes.CommandLine
