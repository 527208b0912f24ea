import RouteTypes.Contract.Model

/-!
# Contract documents as values

A contract is written back as a document value: the declared fields of every object in the order
of their declaration, absent ones included, and the extras behind them.
-/

namespace RouteTypes.Contract

/-- A text that may be absent, as a value. -/
def textValue : Option String → Value
  | some text => .text text
  | none => .null

/-- Fields that may be absent, as a value. -/
def fieldsValue : Option Fields → Value
  | some fields => .ofFields fields
  | none => .null

/-- A value that may be absent. -/
def valueOr (toValue : α → Value) : Option α → Value
  | some value => toValue value
  | none => .null

/-- A media type as a value. -/
def MediaType.toValue (media : MediaType) : Value :=
  .ofFields (("schema", fieldsValue media.schema) :: media.extras)

/-- The bodies by media type as a value. -/
def contentValue (content : List (String × Option MediaType)) : Value :=
  .ofFields (content.map fun entry => (entry.1, valueOr MediaType.toValue entry.2))

/-- A body as a value. -/
def Body.toValue (body : Body) : Value :=
  .ofFields ([("description", textValue body.description),
    ("content", valueOr contentValue body.content)] ++ body.extras)

/-- A parameter as a value. -/
def Parameter.toValue (parameter : Parameter) : Value :=
  .ofFields ([("name", .text parameter.name), ("in", .text parameter.location.name),
    ("required", .bool parameter.required),
    ("description", textValue parameter.description),
    ("schema", fieldsValue parameter.schema),
    ("content", valueOr contentValue parameter.content)] ++ parameter.extras)

/-- The responses by status code as a value. -/
def responsesValue (responses : List (String × Option Body)) : Value :=
  .ofFields (responses.map fun entry => (entry.1, valueOr Body.toValue entry.2))

/-- An operation as a value. -/
def Operation.toValue (operation : Operation) : Value :=
  .ofFields ([("description", textValue operation.description),
    ("parameters", .list (operation.parameters.map Parameter.toValue)),
    ("requestBody", valueOr Body.toValue operation.requestBody),
    ("responses", valueOr responsesValue operation.responses)] ++ operation.extras)

/-- A path item as a value. -/
def PathItem.toValue (item : PathItem) : Value :=
  .ofFields (("operations", .ofFields (item.operations.map fun entry =>
    (entry.1.name, valueOr Operation.toValue entry.2))) :: item.extras)

/-- The title and version of a contract as a value. -/
def Info.toValue (info : Info) : Value :=
  .ofFields ([("title", .text info.title), ("version", .text info.version),
    ("description", textValue info.description)] ++ info.extras)

/-- A contract document as a value. -/
def Document.toValue (document : Document) : Value :=
  .ofFields ([("openapi", .text document.openapi), ("info", document.info.toValue),
    ("paths", .ofFields (document.paths.map fun entry =>
      (entry.1, valueOr PathItem.toValue entry.2))),
    ("components", fieldsValue document.components)] ++ document.extras)

end RouteTypes.Contract
