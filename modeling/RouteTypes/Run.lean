import RouteTypes.Diagnostics
import RouteTypes.Failure

/-!
# Runs

A run is a computation in a world: it may ask the host, change files, show messages and write to
the output, and it may fail. What it has done before a failure is done.
-/

namespace RouteTypes

/-- What surrounds a run, how it shows messages, and what it has done so far: the addresses that
it has requested, the messages that it has shown, and what it has written to the output. -/
structure World where
  host : Host
  diagnostics : Diagnostics
  requests : List String
  messages : String
  output : Outlet

/-- A world in which nothing has been done. -/
def World.start (host : Host) (diagnostics : Diagnostics) : World :=
  ⟨host, diagnostics, [], "", .empty⟩

/-- The world with other files. -/
def World.withFiles (world : World) (files : FileSystem) : World :=
  { world with host := { world.host with files := files } }

/-- A computation that may fail. -/
abbrev Run := ExceptT Failure (StateM World)

/-- Where a text is written. -/
inductive Target where
  | file (path : String)
  | output
  deriving DecidableEq, Repr

namespace Run

/-- Fails where a result is a failure. -/
def ofExcept (result : Except Failure α) : Run α :=
  match result with
  | .ok value => pure value
  | .error failure => throw failure

/-- Shows a message. -/
def say (level : Level) (message : String) : Run Unit :=
  modify fun world =>
    { world with messages := world.messages ++ world.diagnostics.render level message }

/-- Remembers the addresses that were requested. -/
def remember (requests : List String) : Run Unit :=
  modify fun world => { world with requests := world.requests ++ requests }

/-- A document that is loaded from the host. -/
def load (source : Host → Contract.Loaded Value) : Run Value := do
  let loaded := source (← get).host
  remember loaded.requests
  ofExcept (loaded.outcome.mapError .source)

/-- The text that the compiler makes of its input. -/
def compile (job : Compiler.Job) : Run String := do
  let world ← get
  let (files, outcome) := job.run world.host.programs world.host.files
  set (world.withFiles files)
  ofExcept (outcome.mapError .compiler)

/-- Writes a text. -/
def write (text : String) (target : Target) : Run Unit := do
  let world ← get
  match target with
  | .file path =>
    let (files, outcome) := world.host.files.writeText path text
    set (world.withFiles files)
    ofExcept (outcome.mapError .output)
  | .output =>
    let (outlet, outcome) := world.output.write text
    set { world with output := outlet }
    ofExcept (outcome.mapError .output)

end Run

end RouteTypes
