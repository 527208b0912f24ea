import RouteTypes.Host
import RouteTypes.Json.Reader
import RouteTypes.Settings
import RouteTypes.Text.CommandWords

/-!
# Layers of settings

Settings come in layers: arguments, the environment, the file of the project, and defaults. What
a layer names hides what the layers below it say. The file and the address of the contract are
one matter: the highest layer that names either of them decides on both. Of the compiler only the
command can be set above the project.
-/

namespace RouteTypes

/-- What a layer above the project names. -/
structure Layer where
  contract : Option (Option String × Option String)
  output : Option String
  routesFile : Option String
  routes : Option (List String)
  patterns : Option (List String)
  schemaOutput : Option String
  compiler : Option String
  deriving DecidableEq, Repr

/-- The arguments about settings. -/
structure Arguments where
  contractFile : Option String
  contractAddress : Option String
  output : Option String
  routesFile : Option String
  routes : List String
  patterns : List String
  schemaOutput : Option String
  compiler : Option String
  deriving DecidableEq, Repr

/-- Why there are no settings. -/
inductive LayerFault where
  | project (path : String) (fault : FileFault)
  | file (fault : FileFault)
  | undecodable (fault : Utf8.Fault)
  | json (path : String) (fault : Json.Fault)
  | number (fault : Number.Fault)
  | noObject (path : String)
  | shape (problems : List Check.Problem)
  | command (fault : Text.CommandFault)
  | emptyCommand

/-- What the user is told. -/
def LayerFault.message : LayerFault → String
  | .project path fault => s!"Invalid project config at {path}: {fault.message}"
  | .file fault => fault.message
  | .undecodable fault => fault.message
  | .json path fault => s!"Invalid project config at {path}: {fault.message}"
  | .number fault => fault.message
  | .noObject path => s!"Invalid project config at {path}: expected a JSON object"
  | .shape problems =>
    "Invalid project config: " ++ Check.report "GenerateConfig" problems
  | .command fault => fault.message
  | .emptyCommand => "Compiler command is empty"

/-- A text that is not empty. -/
def filled? (text : Option String) : Option String :=
  text.filter (· != "")

namespace Layer

/-- The pair of a file and an address where either of them is named. -/
def pair? (file address : Option String) : Option (Option String × Option String) :=
  if (filled? file).isSome || (filled? address).isSome then some (file, address) else none

/-- The items of a list that is not empty. -/
def items? (list : List String) : Option (List String) :=
  if list.isEmpty then none else some list

/-- The layer of the arguments. An empty text counts for files that are written or read beside
the contract. -/
def ofArguments (arguments : Arguments) : Layer where
  contract := pair? arguments.contractFile arguments.contractAddress
  output := arguments.output
  routesFile := arguments.routesFile
  routes := items? arguments.routes
  patterns := items? arguments.patterns
  schemaOutput := arguments.schemaOutput
  compiler := filled? arguments.compiler

/-- The layer of the environment, where an empty variable names nothing. -/
def ofEnvironment (environment : Environment) : Layer where
  contract := pair? (filled? (environment.lookup "APITYPES_CONTRACTS_FILE"))
    (filled? (environment.lookup "APITYPES_CONTRACTS_URL"))
  output := filled? (environment.lookup "APITYPES_OUTPUT")
  routesFile := none
  routes := none
  patterns := none
  schemaOutput := none
  compiler := filled? (environment.lookup "APITYPES_COMPILER")

/-- What the first of two layers names, and what only the second does. -/
def above (upper lower : Layer) : Layer where
  contract := upper.contract.or lower.contract
  output := upper.output.or lower.output
  routesFile := upper.routesFile.or lower.routesFile
  routes := upper.routes.or lower.routes
  patterns := upper.patterns.or lower.patterns
  schemaOutput := upper.schemaOutput.or lower.schemaOutput
  compiler := upper.compiler.or lower.compiler

/-- The command of the compiler under a layer. -/
def command (layer : Layer) (below : List String) : Except LayerFault (List String) :=
  match layer.compiler with
  | none => .ok below
  | some line =>
    match Text.commandWords line with
    | .error fault => .error (.command fault)
    | .ok [] => .error .emptyCommand
    | .ok words => .ok words

/-- Settings under a layer. -/
def apply (layer : Layer) (settings : Settings) : Except LayerFault Settings := do
  let command ← layer.command settings.compiler.command
  let contract := layer.contract.getD (settings.contractFile, settings.contractAddress)
  return {
    contractFile := contract.1
    contractAddress := contract.2
    output := layer.output.or settings.output
    routesFile := layer.routesFile.or settings.routesFile
    routes := layer.routes.getD settings.routes
    patterns := layer.patterns.getD settings.patterns
    schemaOutput := layer.schemaOutput.or settings.schemaOutput
    schemaIndent := settings.schemaIndent
    compiler := { settings.compiler with command := command } }

end Layer

namespace Settings

/-- The name of the file with the settings of a project. -/
def projectFileName : String := "apitypes.json"

/-- The content of the file of the project, where there is one. -/
def projectValue (host : Host) : Except LayerFault (Option Value) := do
  let file := host.directory.join (FilePath.ofString projectFileName)
  let path := file.toString
  if !(← (host.files.isFile file).mapError .file) then return none
  let bytes ← (host.files.read file).mapError (.project path)
  let text ← (Text.ofFile bytes).mapError .undecodable
  match Json.read text with
  | .error (.number fault) => throw (.number fault)
  | .error fault => throw (.json path fault)
  | .ok (.mapping entries) => return some (.mapping entries)
  | .ok _ => throw (.noObject path)

/-- The settings of the project. -/
def ofProject (host : Host) : Except LayerFault Settings := do
  match ← projectValue host with
  | none => return default
  | some value => (check value).mapError .shape

/-- The settings that result from all layers. -/
def resolve (host : Host) (arguments : Arguments) : Except LayerFault Settings := do
  let project ← ofProject host
  ((Layer.ofArguments arguments).above (Layer.ofEnvironment host.environment)).apply project

end Settings

end RouteTypes
