import RouteTypes.Contract.Model

/-!
# Lookup types

Behind the declarations of a contract stand types that look into them: for every method a type
that gives the request body of a route, or its response for a status code. They refer to the
root interface of the declarations by its name.
-/

namespace RouteTypes

/-- The lookup type of a method: its name, the method with its article, and the names of two
types that show its use. The second shows a request body. -/
structure Lookup where
  name : String
  method : Contract.Method
  article : String
  response : String
  status : String
  payload : Bool

namespace Lookup

/-- The lookup types, in the order of their declarations. -/
def all : List Lookup :=
  [⟨"Post", .post, "a", "Created", "201", true⟩,
   ⟨"Get", .get, "a", "Found", "200", true⟩,
   ⟨"Delete", .delete, "a", "Deleted", "204", true⟩,
   ⟨"Put", .put, "a", "Replaced", "200", true⟩,
   ⟨"Patch", .patch, "a", "Updated", "200", true⟩,
   ⟨"Head", .head, "a", "Found", "200", false⟩,
   ⟨"Options", .options, "an", "Allowed", "204", false⟩,
   ⟨"Trace", .trace, "a", "Echo", "200", false⟩]

/-- The route of the examples. -/
def exampleRoute : String := "\"/animals/\x7banimal-id\x7d\""

/-- The declaration of a lookup type. -/
def declaration (root : String) (lookup : Lookup) : String :=
  "/**\n * Look up the request body, or a response body by status code, of " ++
    s!"{lookup.article} {lookup.method.upperName} route.\n * @example\n" ++
    s!" * type {lookup.response} = {lookup.name}<" ++ exampleRoute ++
    s!", \"{lookup.status}\">;\n" ++
    (if lookup.payload then s!" * type Payload = {lookup.name}<" ++ exampleRoute ++ ">;\n"
      else "") ++
    s!" */\nexport type {lookup.name}<\n  Path extends keyof {root},\n" ++
    s!"  StatusCode extends NoStatusCode | StatusCodes<Path, '{lookup.method.name}'>" ++
    s!" = NoStatusCode\n> = For<Path, '{lookup.method.name}', StatusCode>;\n\n"

/-- The declarations that the lookup types share. -/
def shared (root : String) : String :=
  "/** The request body type of a route and method. */\n" ++
    "export type RequestBody<Path extends string, Method extends string> = Elvis<\n" ++
    s!"  Elvis<Elvis<{root}, Path>, Method>,\n  'requestBody'\n>;\n\n" ++
    "/** The responses object type of a route and method, keyed by status code. */\n" ++
    "export type Responses<Path extends string, Method extends string> = Elvis<\n" ++
    s!"  Elvis<Elvis<{root}, Path>, Method>,\n  'responses'\n>;\n\n" ++
    "/** Union of the response status codes declared for a route and method. */\n" ++
    s!"export type StatusCodes<\n  Path extends keyof {root},\n  Method extends string\n" ++
    "> = keyof Responses<Path, Method>;\n\n" ++
    "/** Marks \"no status code\", giving clearer errors when a route declares no responses. */\n" ++
    "type NoStatusCode = 'no-status-code';\n\n" ++
    "type For<\n  Path extends string,\n  Method extends string,\n" ++
    "  StatusCode extends string | number | symbol\n> = StatusCode extends NoStatusCode\n" ++
    "  ? RequestBody<Path, Method>\n  : Elvis<Responses<Path, Method>, StatusCode>;\n\n" ++
    "type Elvis<T, Key extends string | number | symbol> = T extends Record<\n" ++
    "  Key,\n  unknown\n>\n  ? T[Key]\n  : never;\n"

/-- The declarations of all lookup types for a root interface. -/
def declarations (root : String) : String :=
  s!"export interface {root} " ++ "\x7b\x7d\n\n" ++ String.join (all.map (declaration root)) ++
    shared root

/-- Declarations with the lookup types behind them. There are none behind nothing. -/
def appendTo (text : Option String) (root : String) : Option String :=
  match text with
  | none => none
  | some text => if text == "" then none else some (text ++ "\n\n" ++ declarations root)

end Lookup

end RouteTypes
