import RouteTypes.Value

/-!
# Contract documents

The part of a contract that types are generated from: routes with their methods, the operation
of each method, its parameters, its request body and its responses. Only one media type of a
body is ever read. Whatever else a document holds is kept as extras, in order, and has no
influence.
-/

namespace RouteTypes.Contract

/-- The methods of a route. -/
inductive Method where
  | get
  | post
  | put
  | patch
  | delete
  | head
  | options
  | trace
  deriving DecidableEq, Repr

/-- The places where a parameter is sent. -/
inductive Location where
  | query
  | header
  | path
  | cookie
  deriving DecidableEq, Repr

/-- The body of one media type; only its schema is read. -/
structure MediaType where
  schema : Option Fields
  extras : Fields

/-- The bodies of a request or response, by media type. -/
structure Body where
  description : Option String
  content : Option (List (String × Option MediaType))
  extras : Fields

/-- A parameter. Its schema is its own or that of its content. -/
structure Parameter where
  name : String
  location : Location
  required : Bool
  description : Option String
  schema : Option Fields
  content : Option (List (String × Option MediaType))
  extras : Fields

/-- What a route does for one method. -/
structure Operation where
  description : Option String
  parameters : List Parameter
  requestBody : Option Body
  responses : Option (List (String × Option Body))
  extras : Fields

/-- The operations of a route, by method, in document order. -/
structure PathItem where
  operations : List (Method × Option Operation)
  extras : Fields

/-- The title and version of a contract. -/
structure Info where
  title : String
  version : String
  description : Option String
  extras : Fields

/-- A contract document. -/
structure Document where
  openapi : String
  info : Info
  paths : List (String × Option PathItem)
  components : Option Fields
  extras : Fields

namespace Method

/-- The methods by name. -/
def names : List (String × Method) :=
  [("get", .get), ("post", .post), ("put", .put), ("patch", .patch), ("delete", .delete),
   ("head", .head), ("options", .options), ("trace", .trace)]

/-- The name of a method. -/
def name : Method → String
  | .get => "get"
  | .post => "post"
  | .put => "put"
  | .patch => "patch"
  | .delete => "delete"
  | .head => "head"
  | .options => "options"
  | .trace => "trace"

/-- The name of a method in upper case. -/
def upperName : Method → String
  | .get => "GET"
  | .post => "POST"
  | .put => "PUT"
  | .patch => "PATCH"
  | .delete => "DELETE"
  | .head => "HEAD"
  | .options => "OPTIONS"
  | .trace => "TRACE"

/-- The text is the name of a method. -/
def isName (text : String) : Bool :=
  names.any fun entry => entry.1 == text

end Method

namespace Location

/-- The places by name. -/
def names : List (String × Location) :=
  [("query", .query), ("header", .header), ("path", .path), ("cookie", .cookie)]

/-- The name of a place. -/
def name : Location → String
  | .query => "query"
  | .header => "header"
  | .path => "path"
  | .cookie => "cookie"

end Location

/-- The one media type that is read. -/
def jsonMediaType : String := "application/json"

/-- The schema of the one media type that is read. -/
def contentSchema? (content : Option (List (String × Option MediaType))) : Option Fields :=
  match content with
  | none => none
  | some media =>
    match Fields.get? media jsonMediaType with
    | some (some media) => media.schema
    | _ => none

/-- The schema of a body. -/
def Body.schema? (body : Body) : Option Fields :=
  contentSchema? body.content

/-- The schema of a parameter. -/
def Parameter.schema? (parameter : Parameter) : Option Fields :=
  parameter.schema.or (contentSchema? parameter.content)

/-- The title and version of a contract that does not give them. -/
def Info.default : Info := ⟨"Untitled API", "0.0.0", none, []⟩

end RouteTypes.Contract
