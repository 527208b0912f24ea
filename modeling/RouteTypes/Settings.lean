import RouteTypes.Compiler

/-!
# Settings

What a run of the generator is told: where the contract is, which routes are kept, where the
results go, and how the compiler is run. A project may hold its settings in a file.
-/

namespace RouteTypes

/-- The settings of a run. -/
structure Settings where
  contractFile : Option String
  contractAddress : Option String
  output : Option String
  routesFile : Option String
  routes : List String
  patterns : List String
  schemaOutput : Option String
  schemaIndent : Int
  compiler : Compiler
  deriving DecidableEq, Repr

namespace Settings

/-- The settings that count unless others are given. -/
def default : Settings :=
  ⟨none, none, none, none, [], [], none, 2, .default⟩

/-- Checks the settings of a project. -/
def check (value : Value) : Checked Settings := do
  let entries ← Check.record "GenerateConfig" value
  let optionalText (name : String) := Check.fieldOr none entries [name] (Check.optional Check.text)
  let texts (name : String) := Check.fieldOr [] entries [name] (Check.list Check.text)
  let contractFile := optionalText "contracts_file"
  let contractAddress := optionalText "contracts_url"
  let output := optionalText "output"
  let routesFile := optionalText "paths_file"
  let routes := texts "paths"
  let patterns := texts "path_patterns"
  let schemaOutput := optionalText "schema_output"
  let schemaIndent := Check.fieldOr default.schemaIndent entries ["schema_indent"] Check.integer
  let compiler := Check.fieldOr default.compiler entries ["compiler"] Compiler.check
  let (contractFile, contractAddress, output, routesFile, routes, patterns, schemaOutput,
      schemaIndent, compiler) ←
    Checked.both contractFile (Checked.both contractAddress (Checked.both output
      (Checked.both routesFile (Checked.both routes (Checked.both patterns
        (Checked.both schemaOutput (Checked.both schemaIndent compiler)))))))
  return ⟨contractFile, contractAddress, output, routesFile, routes, patterns, schemaOutput,
    schemaIndent, compiler⟩

/-- The settings as a value. -/
def toValue (settings : Settings) : Value :=
  let text (value : Option String) : Value := (value.map Value.text).getD .null
  .ofFields
    [("contracts_file", text settings.contractFile),
     ("contracts_url", text settings.contractAddress),
     ("output", text settings.output),
     ("paths_file", text settings.routesFile),
     ("paths", .list (settings.routes.map .text)),
     ("path_patterns", .list (settings.patterns.map .text)),
     ("schema_output", text settings.schemaOutput),
     ("schema_indent", .int settings.schemaIndent),
     ("compiler", settings.compiler.toValue)]

end Settings

end RouteTypes
