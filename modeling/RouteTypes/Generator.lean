import RouteTypes.Contract.Validation
import RouteTypes.Lookup
import RouteTypes.Run
import RouteTypes.Schema

/-!
# Generators

A generator holds a contract, and once it is compiled also the schema of this contract and the
declarations for it. Narrowing gives a generator for a part of the contract, which has to be
compiled anew; where there is nothing to select by, it gives the same one. Generators never
change.
-/

namespace RouteTypes

/-- The schema of a contract and the declarations for it. -/
structure Compiled where
  schema : Fields
  text : String

/-- A contract, and what it was compiled to. -/
structure Generator where
  contract : Contract.Document
  compiled : Option Compiled

namespace Generator

/-- The name of the root interface of the declarations. -/
def rootName : String := "Paths"

/-- Puts the values that a document refers to into their places. -/
def resolve (document : Value) (location : Option String) : Run Value := do
  let host := (← get).host
  let load (location : String) := Contract.loadReferenced host true location
  let outcome :=
    Reference.dereference (fun location => (load location).outcome) Reference.depthLimit document
      location
  outcome.loads.forM fun location =>
    Run.say .debug s!"Loading referenced document: {location}"
  Run.remember (outcome.loads.flatMap fun location => (load location).requests)
  Run.ofExcept (outcome.result.mapError .reference)

/-- The generator for a document, whose location may be known. -/
def create (document : Value) (location : Option String) : Run Generator := do
  let version ← Run.ofExcept ((Contract.version document).mapError .version)
  let flat ← resolve document location
  let contract ← Run.ofExcept ((Contract.checkDocument flat).mapError .contract)
  Run.say .debug
    (s!"Loaded {contract.info.title} {contract.info.version} " ++
      s!"(OpenAPI {version}, {contract.paths.length} paths)")
  return ⟨contract, none⟩

/-- The generator for the routes that a filter keeps. -/
def narrow (generator : Generator) (filter : Option RouteFilter) : Generator :=
  if RouteFilter.isVoid filter then generator else ⟨generator.contract.narrow filter, none⟩

/-- The schema of a contract in its JSON form. -/
def schemaFields (contract : Contract.Document) : Except Failure Fields :=
  ((Schema.ofDocument contract).mapError Failure.fragment).map Schema.toFields

/-- The declarations with the lookup types behind them. -/
def declarations (text : String) : Except Failure String :=
  match Lookup.appendTo (some text) rootName with
  | some text => .ok text
  | none => .error (.compiler .noOutput)

/-- What the generator has been compiled to, or is compiled to now. -/
def compiledBy (generator : Generator) (compiler : Compiler) : Run Compiled :=
  match generator.compiled with
  | some compiled => pure compiled
  | none => do
    (UntypedParameter.ofDocument generator.contract).forM fun parameter =>
      Run.say .warning parameter.message
    let schema ← Run.ofExcept (schemaFields generator.contract)
    let job ← Run.ofExcept ((compiler.job schema rootName).mapError .compiler)
    Run.say .debug ("Running compiler: " ++ " ".intercalate job.arguments)
    let text ← Run.ofExcept (declarations (← Run.compile job))
    return ⟨schema, text⟩

/-- The generator with its declarations. -/
def compile (generator : Generator) (compiler : Compiler) : Run Generator := do
  return { generator with compiled := some (← generator.compiledBy compiler) }

end Generator

namespace Compiled

/-- Writes the declarations. -/
def write (compiled : Compiled) (target : Target) : Run Unit :=
  Run.write compiled.text target

/-- Writes the schema. -/
def writeSchema (compiled : Compiled) (target : Target) (indent : Option Int) : Run Unit := do
  let text ← Run.ofExcept
    ((Json.write (.ofIndent indent) (.ofFields compiled.schema)).mapError .unwritable)
  Run.write text target

end Compiled

end RouteTypes
