import RouteTypes.Check.Collection
import RouteTypes.Contract.Model

/-!
# Validation of contract documents

The checks that turn a resolved document into a contract. Each kind of object has its declared
fields; some may also be given under a second name, which counts when the first is absent. Two
kinds of mappings are rearranged first: the methods of a path item are collected, and the status
codes of responses become texts.
-/

namespace RouteTypes.Contract

open Check

/-- Checks a media type. -/
def checkMediaType (value : Value) : Checked MediaType := do
  let entries ← record "MediaType" value
  let schema := fieldOr none entries ["schema", "schema_"] (optional anyFields)
  let (schema, extras) ← Checked.both schema (extras entries [["schema", "schema_"]])
  return ⟨schema, extras⟩

/-- Checks the bodies by media type. -/
def checkContent (value : Value) : Checked (List (String × Option MediaType)) :=
  fields (optional checkMediaType) value

/-- Checks a request body or a response. -/
def checkBody (value : Value) : Checked Body := do
  let entries ← record "Body" value
  let description := fieldOr none entries ["description"] (optional text)
  let content := fieldOr none entries ["content"] (optional checkContent)
  let (description, content, extras) ← Checked.both description
    (Checked.both content (extras entries [["description"], ["content"]]))
  return ⟨description, content, extras⟩

/-- Checks the place where a parameter is sent. -/
def checkLocation : Value → Checked Location
  | .scalar value => choice Location.names value
  | _ => Checked.fail (.choice (Location.names.map Prod.fst))

/-- Checks a parameter. -/
def checkParameter (value : Value) : Checked Parameter := do
  let entries ← record "Parameter" value
  let name := field entries ["name"] text
  let location := field entries ["in", "location"] checkLocation
  let required := fieldOr false entries ["required"] truth
  let description := fieldOr none entries ["description"] (optional text)
  let schema := fieldOr none entries ["schema", "schema_"] (optional anyFields)
  let content := fieldOr none entries ["content"] (optional checkContent)
  let extras := extras entries
    [["name"], ["in", "location"], ["required"], ["description"], ["schema", "schema_"],
     ["content"]]
  let (name, location, required, description, schema, content, extras) ←
    Checked.both name (Checked.both location (Checked.both required (Checked.both description
      (Checked.both schema (Checked.both content extras)))))
  return ⟨name, location, required, description, schema, content, extras⟩

/-- The text that a key becomes. -/
def textKey : Scalar → Scalar
  | .broken key => .broken key
  | key => .text key.display

/-- Turns the keys of a mapping into texts. -/
def withTextKeys : Value → Value
  | .mapping entries =>
    .mapping (Entries.putAll [] (entries.map fun entry => (textKey entry.1, entry.2)))
  | value => value

/-- The keys of a mapping have texts. -/
def hasShowableKeys : Value → Bool
  | .mapping entries => entries.all fun entry => entry.1.isShowable
  | _ => true

/-- Checks the responses by status code. -/
def checkResponses (value : Value) : Checked (Option (List (String × Option Body))) :=
  if hasShowableKeys value then optional (fields (optional checkBody)) (withTextKeys value)
  else Checked.fail .unshowable

/-- Checks an operation. -/
def checkOperation (value : Value) : Checked Operation := do
  let entries ← record "Operation" value
  let description := fieldOr none entries ["description"] (optional text)
  let parameters := fieldOr [] entries ["parameters"] (list checkParameter)
  let requestBody :=
    fieldOr none entries ["requestBody", "request_body"] (optional checkBody)
  let responses := fieldOr none entries ["responses"] checkResponses
  let extras := extras entries
    [["description"], ["parameters"], ["requestBody", "request_body"], ["responses"]]
  let (description, parameters, requestBody, responses, extras) ←
    Checked.both description (Checked.both parameters (Checked.both requestBody
      (Checked.both responses extras)))
  return ⟨description, parameters, requestBody, responses, extras⟩

/-- The key is the name of a method. -/
def isMethodKey : Scalar → Bool
  | .text name => Method.isName name
  | _ => false

/-- Collects the methods of a path item, unless it brings its own collection. -/
def collectOperations (entries : Entries) : Entries :=
  if (Entries.get? entries (.text "operations")).isSome then entries
  else
    entries.filter (fun entry => !isMethodKey entry.1) ++
      [(.text "operations", .mapping (entries.filter fun entry => isMethodKey entry.1))]

/-- Checks a path item. -/
def checkPathItem (value : Value) : Checked PathItem := do
  let entries ← collectOperations <$> record "PathItem" value
  let operations := fieldOr [] entries ["operations"]
    (mapping (choice Method.names) (optional checkOperation))
  let (operations, extras) ← Checked.both operations (extras entries [["operations"]])
  return ⟨operations, extras⟩

/-- Checks the title and version of a contract. -/
def checkInfo (value : Value) : Checked Info := do
  let entries ← record "Info" value
  let title := fieldOr Info.default.title entries ["title"] text
  let version := fieldOr Info.default.version entries ["version"] text
  let description := fieldOr none entries ["description"] (optional text)
  let (title, version, description, extras) ← Checked.both title (Checked.both version
    (Checked.both description (extras entries [["title"], ["version"], ["description"]])))
  return ⟨title, version, description, extras⟩

/-- Checks a contract document. -/
def checkDocument (value : Value) : Checked Document := do
  let entries ← record "ContractDocument" value
  let openapi := field entries ["openapi"] text
  let info := fieldOr Info.default entries ["info"] checkInfo
  let paths := fieldOr [] entries ["paths"] (fields (optional checkPathItem))
  let components := fieldOr none entries ["components"] (optional anyFields)
  let extras := extras entries [["openapi"], ["info"], ["paths"], ["components"]]
  let (openapi, info, paths, components, extras) ← Checked.both openapi (Checked.both info
    (Checked.both paths (Checked.both components extras)))
  return ⟨openapi, info, paths, components, extras⟩

end RouteTypes.Contract
