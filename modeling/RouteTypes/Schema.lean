import RouteTypes.Check.Scalar
import RouteTypes.Contract.Model

/-!
# The schema of a contract

The types of a contract are generated from a tree of schemas: an object keyed by route, in it
objects keyed by method, in these the fields of an operation, and in the fields parameters,
status codes and bodies. Schemas of the contract are copied into the tree as fragments; only
their descriptions change.

An object requires exactly the properties it has, with one exception: a group of parameters also
requires those required parameters that have no schema and hence no property.
-/

namespace RouteTypes

/-- A node of the tree: an object, or a fragment of the contract. -/
inductive Schema where
  | object (description : Option String) (properties : List (String × Schema))
      (required : List String) (additional : Bool)
  | fragment (fields : Fields) (description : Option String)

namespace Schema

/-- The fragment with its description in place, or without any. -/
def describe (fields : Fields) (description : Option String) : Fields :=
  match description with
  | some text => Fields.put fields "description" (.text text)
  | none => Fields.erase fields "description"

mutual

/-- The JSON form of a schema. -/
def toFields : Schema → Fields
  | .object description properties required additional =>
    ("type", .text "object") ::
      ((match description with
        | some text => [("description", .text text)]
        | none => []) ++
      [("properties", .ofFields (propertiesToFields properties)),
       ("required", .list (required.map .text)),
       ("additionalProperties", .bool additional)])
  | .fragment fields description => describe fields description

/-- The JSON forms of the properties of an object. -/
def propertiesToFields : List (String × Schema) → Fields
  | [] => []
  | (name, schema) :: rest => (name, .ofFields schema.toFields) :: propertiesToFields rest

end

/-- The JSON form of a schema as a value. -/
def toValue (schema : Schema) : Value :=
  .ofFields schema.toFields

/-- An object that requires exactly its properties and is open to no others. -/
def closed (description : Option String) (properties : List (String × Schema)) : Schema :=
  .object description properties (properties.map Prod.fst) false

/-- The description of a fragment, which has to be a text where it is given. -/
def descriptionOf (value : Option Value) : Checked (Option String) :=
  match value with
  | none => .ok none
  | some value => (Check.optional Check.text value).within (.name "description")

/-- A fragment with the description in a value. -/
def fragmentOf (fields : Fields) (description : Option Value) : Checked Schema := do
  return .fragment fields (← descriptionOf description)

/-- A value that is there and not the absent one. -/
def present? (value : Option Value) : Option Value :=
  value.filter (!·.isNull)

/-- The children of an object: those items that have a schema, under their names. -/
def children (name : κ → String) (schemaOf : κ → α → Checked (Option Schema)) :
    List (κ × α) → Checked (List (String × Schema))
  | [] => .ok []
  | (key, item) :: rest => do
    let schema ← schemaOf key item
    let rest ← children name schemaOf rest
    return match schema with
      | some schema => (name key, schema) :: rest
      | none => rest

/-- The schema of a body. Its description is the schema's own, else that of the body, else the
given one. -/
def ofBody (fallback : String) : Option Contract.Body → Checked (Option Schema)
  | none => .ok none
  | some body =>
    match body.schema? with
    | none => .ok none
    | some fields =>
      let own := present? (Fields.get? fields "description")
      let description := own.getD (.text (body.description.getD fallback))
      some <$> fragmentOf fields (some description)

/-- A group of parameters: its field, the place where they are sent, the start of its
description, and whether it is open to others. -/
structure Group where
  field : String
  location : Contract.Location
  title : String
  additional : Bool

/-- The groups of parameters, in the order of their fields. -/
def groups : List Group :=
  [⟨"headers", .header, "Headers for", true⟩,
   ⟨"queryParams", .query, "Query params for", false⟩,
   ⟨"pathParams", .path, "Path params for", false⟩,
   ⟨"cookies", .cookie, "Cookies for", false⟩]

/-- The properties of a group, by name: a later parameter of the same name replaces the schema
of an earlier one. -/
def parameterProperties (properties : List (String × Schema)) :
    List Contract.Parameter → Checked (List (String × Schema))
  | [] => .ok properties
  | parameter :: rest =>
    match parameter.schema? with
    | none => parameterProperties properties rest
    | some fields => do
      let schema ← fragmentOf fields (Fields.get? fields "description")
      parameterProperties (Fields.put properties parameter.name schema) rest

/-- The names of the required parameters. -/
def requiredNames (parameters : List Contract.Parameter) : List String :=
  (parameters.filter (·.required)).map (·.name)

/-- The schema of a group of parameters, where there are any. -/
def ofGroup (summary : String) (parameters : List Contract.Parameter) (group : Group) :
    Checked (Option Schema) := do
  let members := parameters.filter fun parameter => parameter.location = group.location
  if members.isEmpty then return none
  let properties ← parameterProperties [] members
  return some (.object (some s!"{group.title} {summary}") properties (requiredNames members)
    group.additional)

/-- The schema of the responses of an operation, by status code. -/
def ofResponses (summary : String) :
    Option (List (String × Option Contract.Body)) → Checked (Option Schema)
  | none => .ok none
  | some responses => do
    let properties ← children id
      (fun status body => ofBody s!"{status} response for {summary}" body) responses
    return some (closed (some s!"Response(s) for {summary}") properties)

/-- The fields of an operation that have a schema. -/
def present (fields : List (String × Option Schema)) : List (String × Schema) :=
  fields.filterMap fun field => field.2.map fun schema => (field.1, schema)

/-- The method and the route of an operation as they are shown. -/
def summaryOf (method : Contract.Method) (route : String) : String :=
  s!"{method.upperName} {route}"

/-- The groups of parameters of an operation by field. -/
def ofGroups (summary : String) (parameters : List Contract.Parameter) :
    List Group → Checked (List (String × Option Schema))
  | [] => .ok []
  | group :: rest => do
    let schema ← ofGroup summary parameters group
    let rest ← ofGroups summary parameters rest
    return (group.field, schema) :: rest

/-- The description of an operation, unless it is absent or empty. -/
def operationDescription (summary : String) (description : Option String) : String :=
  match description with
  | some text => if text == "" then summary else text
  | none => summary

/-- The schema of what a route does for a method. -/
def ofOperation (route : String) (method : Contract.Method) :
    Option Contract.Operation → Checked (Option Schema)
  | none => .ok none
  | some operation => do
    let summary := summaryOf method route
    let body ← ofBody s!"Request body for {summary}" operation.requestBody
    let groups ← ofGroups summary operation.parameters groups
    let responses ← ofResponses summary operation.responses
    let fields := ("requestBody", body) :: groups ++ [("responses", responses)]
    return some (closed (some (operationDescription summary operation.description))
      (present fields))

/-- The schema of a route, where it has any method. -/
def ofPathItem (route : String) : Option Contract.PathItem → Checked (Option Schema)
  | none => .ok none
  | some item => do
    if item.operations.isEmpty then return none
    let properties ← children Contract.Method.name (ofOperation route) item.operations
    return some (closed none properties)

/-- The schema of a contract. -/
def ofDocument (document : Contract.Document) : Checked Schema := do
  let properties ← children id ofPathItem document.paths
  return closed none properties

end Schema

/-- A required parameter that has no schema. -/
structure UntypedParameter where
  route : String
  method : Contract.Method
  location : Contract.Location
  name : String
  deriving DecidableEq, Repr

namespace UntypedParameter

/-- The required parameters of an operation that have no schema. -/
def ofOperation (route : String) (method : Contract.Method)
    (operation : Contract.Operation) : List UntypedParameter :=
  (operation.parameters.filter fun parameter =>
    parameter.required && parameter.schema?.isNone).map fun parameter =>
      ⟨route, method, parameter.location, parameter.name⟩

/-- The required parameters of a route that have no schema. -/
def ofPathItem (route : String) (item : Contract.PathItem) : List UntypedParameter :=
  item.operations.flatMap fun (method, operation) =>
    match operation with
    | some operation => ofOperation route method operation
    | none => []

/-- The required parameters of a contract that have no schema, in document order. -/
def ofDocument (document : Contract.Document) : List UntypedParameter :=
  document.paths.flatMap fun (route, item) =>
    match item with
    | some item => ofPathItem route item
    | none => []

/-- The warning about a parameter. -/
def message (parameter : UntypedParameter) : String :=
  s!"Required {parameter.location.name} parameter {Text.quoted parameter.name} of " ++
    s!"{parameter.method.upperName} {parameter.route} has no schema; it is typed as optional"

end UntypedParameter

end RouteTypes
