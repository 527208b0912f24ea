import RouteTypes.Proofs.Contract.Distinct
import RouteTypes.Proofs.Schema.Levels
import RouteTypes.Proofs.Schema.SelfContained

/-!
# Bodies in the schema of a contract

The JSON form of a tree has a node for every body of the contract whose content has a schema, and
for no other (`bodies_of_schema`). The node is this schema with the description of the body in
place. Routes, methods and status codes stand in document order.
-/

namespace RouteTypes

namespace Contract

/-- The operation of a route for a method, where the route and the operation are there. -/
def Document.operation? (contract : Document) (route : String) (method : Method) :
    Option Operation := do
  let item ← (Fields.get? contract.paths route).join
  (Fields.get? item.operations method).join

/-- The response of an operation for a status code, where it is there. -/
def Operation.response? (operation : Operation) (status : String) : Option Body := do
  let responses ← operation.responses
  (Fields.get? responses status).join

/-- The content of a body has a schema for JSON. -/
inductive Body.Holds (body : Body) (fields : Fields) : Prop where
  | json {content : List (String × Option MediaType)} {media : MediaType}
      (given : body.content = some content)
      (typed : Fields.get? content "application/json" = some (some media))
      (schema : media.schema = some fields) : Body.Holds body fields

/-- A path item has a method. -/
def PathItem.HasMethods (item : Option PathItem) : Bool :=
  item.any fun item => !item.operations.isEmpty

/-- The content of a body has any schema for JSON. -/
def Body.HasSchema (body : Option Body) : Bool :=
  (body.bind Body.schema?).isSome

variable {contract : Document} {route : String} {method : Method} {operation : Operation}

@[simp] theorem operation?_eq_some :
    contract.operation? route method = some operation ↔ ∃ item,
      Fields.get? contract.paths route = some (some item) ∧
        Fields.get? item.operations method = some (some operation) := by
  simp [Document.operation?, Option.bind_eq_some_iff, Option.join_eq_some_iff]

@[simp] theorem response?_eq_some {status : String} {body : Body} :
    operation.response? status = some body ↔ ∃ responses,
      operation.responses = some responses ∧ Fields.get? responses status = some (some body) := by
  simp [Operation.response?, Option.bind_eq_some_iff, Option.join_eq_some_iff]

@[simp] theorem contentSchema?_eq_some {content : Option (List (String × Option MediaType))}
    {fields : Fields} :
    contentSchema? content = some fields ↔ ∃ given media, content = some given ∧
      Fields.get? given "application/json" = some (some media) ∧ media.schema = some fields := by
  cases content with
  | none => simp [contentSchema?]
  | some given =>
      rw [contentSchema?, jsonMediaType]
      constructor
      · intro found
        split at found
        next media typed => exact ⟨given, media, rfl, typed, found⟩
        next => cases found
      · rintro ⟨_, media, ⟨⟩, typed, schema⟩
        rw [typed]
        exact schema

theorem schema?_eq_some {body : Body} {fields : Fields} :
    body.schema? = some fields ↔ body.Holds fields := by
  rw [Body.schema?, contentSchema?_eq_some]
  constructor
  · rintro ⟨content, media, given, typed, schema⟩
    exact .json given typed schema
  · rintro ⟨given, typed, schema⟩
    exact ⟨_, _, given, typed, schema⟩

end Contract

namespace Value

/-- What several text keys lead to, one after the other. -/
def at? (value : Value) : List String → Option Value
  | [] => some value
  | name :: rest => (value.field? name).bind fun inner => inner.at? rest

/-- Several text keys lead to a mapping with the given keys, in this order. -/
def KeysAt (value : Value) (path names : List String) : Prop :=
  ∃ fields, value.at? path = some (.ofFields fields) ∧ fields.map Prod.fst = names

@[simp] theorem at?_ofFields (fields : Fields) (name : String) (rest : List String) :
    (Value.ofFields fields).at? (name :: rest) =
      (Fields.get? fields name).bind fun inner => inner.at? rest := by
  rw [at?, Value.ofFields, field?, get?_ofFields]

end Value

namespace Schema

variable {description : Option String} {properties : List (String × Schema)} {node : Value}

/-- The fields with a text under the name of the description: in its place where they have one, and
at the end otherwise. -/
def redescribe (fields : Fields) (text : String) : Fields :=
  if "description" ∈ fields.map Prod.fst then
    fields.map fun field => if field.1 = "description" then (field.1, .text text) else field
  else fields ++ [("description", .text text)]

/-- Only the description of a fragment changes. -/
theorem describe_eq_redescribe {fields : Fields} (distinct : (fields.map Prod.fst).Nodup)
    (text : String) : describe fields (some text) = redescribe fields text := by
  rw [describe]
  induction fields with
  | nil => rfl
  | cons field rest ih =>
      rw [List.map_cons, List.nodup_cons] at distinct
      rw [Fields.put]
      by_cases equal : field.1 = "description"
      · have others : ∀ other ∈ rest, other.1 ≠ "description" := by
          intro other member same
          exact distinct.1 (equal ▸ same ▸ List.mem_map_of_mem member)
        have same : (rest.map fun other => if other.1 = "description"
            then (other.1, .text text) else other) = rest := by
          rw [List.map_congr_left fun other member => if_neg (others other member)]
          exact List.map_id _
        simp [redescribe, equal, same]
      · rw [if_neg (by simpa using equal), ih distinct.2, redescribe, redescribe]
        by_cases present : "description" ∈ rest.map Prod.fst
        · simp [present, equal]
        · simp [present, Ne.symm equal]

@[simp] theorem at?_properties {required : List String} {additional : Bool} (rest : List String) :
    (object description properties required additional).toValue.at? ("properties" :: rest) =
      (Value.ofFields (propertiesToFields properties)).at? rest := by
  cases description <;> simp [toValue, toFields, Value.at?_ofFields, Fields.get?_cons]

@[simp] theorem at?_closed (rest : List String) :
    (closed description properties).toValue.at? ("properties" :: rest) =
      (Value.ofFields (propertiesToFields properties)).at? rest :=
  at?_properties rest

theorem names_propertiesToFields :
    (propertiesToFields properties).map Prod.fst = properties.map Prod.fst := by
  rw [propertiesToFields_eq, List.map_map]
  rfl

@[simp] theorem get?_propertiesToFields (name : String) :
    Fields.get? (propertiesToFields properties) name =
      (Fields.get? properties name).map Schema.toValue := by
  induction properties with
  | nil => rfl
  | cons property rest ih =>
      rw [propertiesToFields, Fields.get?_cons, Fields.get?_cons, ih]
      split <;> rfl

/-- What stands below a property of an object stands in a child of it. -/
theorem at?_children {κ α : Type} [BEq κ] [LawfulBEq κ] {name : κ → String}
    {schemaOf : κ → α → Checked (Option Schema)} {items : List (κ × α)}
    (injective : name.Injective) (distinct : (items.map Prod.fst).Nodup)
    (success : children name schemaOf items = .ok properties) {key : κ} {rest : List String} :
    (closed description properties).toValue.at? ("properties" :: name key :: rest) = some node ↔
      ∃ item schema, Fields.get? items key = some item ∧
        schemaOf key item = .ok (some schema) ∧ schema.toValue.at? rest = some node := by
  rw [at?_closed, Value.at?_ofFields, get?_propertiesToFields]
  simp only [Option.bind_eq_some_iff, Option.map_eq_some_iff,
    get?_children injective distinct success]
  constructor
  · intro given
    rcases given with ⟨_, ⟨schema, ⟨item, found, made⟩, rfl⟩, below⟩
    exact ⟨item, schema, found, made, below⟩
  · intro given
    rcases given with ⟨item, schema, found, made, below⟩
    exact ⟨_, ⟨schema, ⟨item, found, made⟩, rfl⟩, below⟩

/-! ## The way to a field of an operation -/

/-- The keys that lead to what a route does for a method. -/
def operationPath (route : String) (method : Contract.Method) : List String :=
  ["properties", route, "properties", method.name]

variable {contract : Contract.Document} {tree : Schema} {route : String}
variable {method : Contract.Method} {operation : Contract.Operation}

theorem ofDocument_eq_ok (built : ofDocument contract = .ok tree) :
    ∃ properties, children id ofPathItem contract.paths = .ok properties ∧
      closed none properties = tree := by
  rw [ofDocument, Checked.bind_eq_ok] at built
  obtain ⟨properties, made, built⟩ := built
  cases built
  exact ⟨properties, made, rfl⟩

/-- The tree of a contract has a route where its path item has a method. -/
theorem at?_route (distinct : contract.Distinct) (built : ofDocument contract = .ok tree)
    {rest : List String} :
    tree.toValue.at? ("properties" :: route :: rest) = some node ↔
      ∃ item properties, Fields.get? contract.paths route = some (some item) ∧
        item.operations ≠ [] ∧
        children Contract.Method.name (ofOperation route) item.operations = .ok properties ∧
        (closed none properties).toValue.at? rest = some node := by
  obtain ⟨properties, made, rfl⟩ := ofDocument_eq_ok built
  rw [← id_eq route, at?_children Function.injective_id distinct.routes made, id_eq]
  constructor
  · intro given
    rcases given with ⟨_, _, found, routeMade, below⟩
    obtain ⟨item, inner, rfl, some, innerMade, rfl⟩ := ofPathItem_eq_some.1 routeMade
    exact ⟨item, inner, found, some, innerMade, below⟩
  · intro given
    rcases given with ⟨item, inner, found, some, innerMade, below⟩
    exact ⟨_, _, found, ofPathItem_eq_some.2 ⟨item, inner, rfl, some, innerMade, rfl⟩, below⟩

theorem nodup_methods (distinct : contract.Distinct) {item : Contract.PathItem}
    (found : Fields.get? contract.paths route = some (some item)) :
    (item.operations.map Prod.fst).Nodup :=
  distinct.methods route item (Fields.mem_of_get? found)

/-- The operations of a route of the tree can be built. -/
theorem exists_operations (built : ofDocument contract = .ok tree) {item : Contract.PathItem}
    (found : Fields.get? contract.paths route = some (some item)) (some : item.operations ≠ []) :
    ∃ properties, children Contract.Method.name (ofOperation route) item.operations =
      .ok properties := by
  obtain ⟨properties, made, _⟩ := ofDocument_eq_ok built
  obtain ⟨result, routeMade⟩ := built_of_children made (Fields.mem_of_get? found)
  cases result with
  | none => exact absurd (ofPathItem_eq_none.1 routeMade item rfl) some
  | some inner =>
      obtain ⟨_, operations, ⟨⟩, _, innerMade, _⟩ := ofPathItem_eq_some.1 routeMade
      exact ⟨operations, innerMade⟩

/-- An operation of a contract has a schema in the tree. -/
theorem exists_ofOperation (built : ofDocument contract = .ok tree)
    (known : contract.operation? route method = some operation) :
    ∃ schema, ofOperation route method (some operation) = .ok (some schema) := by
  obtain ⟨item, found, methodFound⟩ := Contract.operation?_eq_some.1 known
  have member := Fields.mem_of_get? methodFound
  obtain ⟨operations, made⟩ := exists_operations built found (List.ne_nil_of_mem member)
  obtain ⟨schema, operationMade⟩ := built_of_children made member
  cases schema with
  | none => cases ofOperation_eq_none.1 operationMade
  | some schema => exact ⟨schema, operationMade⟩

/-- The tree of a contract has a method of a route where its operation is there. -/
theorem at?_operation (distinct : contract.Distinct) (built : ofDocument contract = .ok tree)
    {rest : List String} :
    tree.toValue.at? (operationPath route method ++ rest) = some node ↔
      ∃ operation schema, contract.operation? route method = some operation ∧
        ofOperation route method (some operation) = .ok (some schema) ∧
        schema.toValue.at? rest = some node := by
  rw [operationPath, List.cons_append, List.cons_append, at?_route distinct built]
  constructor
  · intro given
    rcases given with ⟨item, properties, found, _, made, below⟩
    obtain ⟨operation, schema, methodFound, operationMade, below⟩ :=
      (at?_children Contract.Method.name_injective (nodup_methods distinct found) made).1 below
    cases operation with
    | none => cases operationMade
    | some operation =>
        exact ⟨operation, schema, Contract.operation?_eq_some.2 ⟨item, found, methodFound⟩,
          operationMade, below⟩
  · intro given
    rcases given with ⟨operation, schema, known, operationMade, below⟩
    obtain ⟨item, found, methodFound⟩ := Contract.operation?_eq_some.1 known
    have some : item.operations ≠ [] := List.ne_nil_of_mem (Fields.mem_of_get? methodFound)
    obtain ⟨operations, made⟩ := exists_operations built found some
    refine ⟨item, operations, found, some, made, ?_⟩
    exact (at?_children Contract.Method.name_injective (nodup_methods distinct found) made).2
      ⟨_, schema, methodFound, operationMade, below⟩

/-- The fields of an operation in the tree. -/
theorem exists_operationFields {schema : Schema}
    (made : ofOperation route method (some operation) = .ok (some schema)) :
    ∃ description fields body responses, schema = closed description (present fields) ∧
      (fields.map Prod.fst).Nodup ∧ ("requestBody", body) ∈ fields ∧
      ("responses", responses) ∈ fields ∧
      ofBody s!"Request body for {summaryOf method route}" operation.requestBody = .ok body ∧
      ofResponses (summaryOf method route) operation.responses = .ok responses := by
  obtain ⟨_, body, groupResults, responses, ⟨⟩, bodyMade, groupsMade, responsesMade, rfl⟩ :=
    ofOperation_eq_some.1 made
  exact ⟨_, _, body, responses, rfl, nodup_operationFields groupsMade, by simp, by simp,
    bodyMade, responsesMade⟩

theorem at?_present {fields : List (String × Option Schema)}
    (distinct : (fields.map Prod.fst).Nodup) {name : String} {result : Option Schema}
    (member : (name, result) ∈ fields) {rest : List String} :
    (closed description (present fields)).toValue.at? ("properties" :: name :: rest) = some node ↔
      ∃ schema, result = some schema ∧ schema.toValue.at? rest = some node := by
  rw [← id_eq name, at?_children Function.injective_id distinct (children_ok fields),
    Fields.get?_of_mem distinct member]
  constructor
  · intro given
    rcases given with ⟨_, schema, ⟨⟩, ⟨⟩, below⟩
    exact ⟨schema, rfl, below⟩
  · intro given
    rcases given with ⟨schema, rfl, below⟩
    exact ⟨_, schema, rfl, rfl, below⟩

/-! ## Bodies -/

/-- The JSON form of the schema of a body, whose description may be the given one. -/
def BodyNode (fallback : String) (body : Contract.Body) (node : Value) : Prop :=
  ∃ fields text, body.Holds fields ∧ BodyText fields body.description fallback text ∧
    node = .ofFields (redescribe fields text)

theorem bodyNode_iff {fallback : String} {body : Option Contract.Body} {result : Option Schema}
    (made : ofBody fallback body = .ok result)
    (distinct : ∀ given fields, body = some given → given.schema? = some fields →
      (fields.map Prod.fst).Nodup) :
    (∃ schema, result = some schema ∧ schema.toValue.at? [] = some node) ↔
      ∃ given, body = some given ∧ BodyNode fallback given node := by
  constructor
  · intro shown
    rcases shown with ⟨_, rfl, ⟨⟩⟩
    obtain ⟨given, fields, text, isGiven, schema, described, rfl⟩ := ofBody_eq_some.1 made
    refine ⟨given, isGiven, fields, text, Contract.schema?_eq_some.1 schema, described, ?_⟩
    rw [← describe_eq_redescribe (distinct given fields isGiven schema)]
    rfl
  · intro shown
    rcases shown with ⟨given, isGiven, fields, text, holds, described, rfl⟩
    have schema := Contract.schema?_eq_some.2 holds
    have alsoMade := ofBody_eq_some.2 ⟨given, fields, text, isGiven, schema, described, rfl⟩
    cases made.symm.trans alsoMade
    refine ⟨_, rfl, ?_⟩
    rw [← describe_eq_redescribe (distinct given fields isGiven schema)]
    rfl

theorem at?_requestBody {schema : Schema}
    (made : ofOperation route method (some operation) = .ok (some schema))
    (distinct : ∀ fields, operation.Copies fields → (fields.map Prod.fst).Nodup) :
    schema.toValue.at? ["properties", "requestBody"] = some node ↔
      ∃ body, operation.requestBody = some body ∧
        BodyNode s!"Request body for {summaryOf method route}" body node := by
  obtain ⟨_, fields, body, _, rfl, once, member, _, bodyMade, _⟩ := exists_operationFields made
  rw [at?_present once member]
  exact bodyNode_iff bodyMade fun given fields isGiven schema =>
    distinct fields (.request isGiven schema)

theorem at?_responses {schema : Schema} {rest : List String}
    (made : ofOperation route method (some operation) = .ok (some schema)) :
    schema.toValue.at? ("properties" :: "responses" :: rest) = some node ↔
      ∃ responses properties, operation.responses = some responses ∧
        children id (fun status body =>
          ofBody s!"{status} response for {summaryOf method route}" body) responses =
            .ok properties ∧
        (closed (some s!"Response(s) for {summaryOf method route}") properties).toValue.at? rest =
          some node := by
  obtain ⟨_, fields, _, result, rfl, once, _, member, _, responsesMade⟩ :=
    exists_operationFields made
  rw [at?_present once member]
  constructor
  · intro given
    rcases given with ⟨_, rfl, below⟩
    obtain ⟨responses, properties, isGiven, bodiesMade, rfl⟩ := ofResponses_eq_some.1 responsesMade
    exact ⟨responses, properties, isGiven, bodiesMade, below⟩
  · intro given
    rcases given with ⟨responses, properties, isGiven, bodiesMade, below⟩
    have alsoMade := ofResponses_eq_some.2 ⟨responses, properties, isGiven, bodiesMade, rfl⟩
    cases responsesMade.symm.trans alsoMade
    exact ⟨_, rfl, below⟩

theorem exists_bodies {schema : Schema}
    (made : ofOperation route method (some operation) = .ok (some schema))
    {responses : List (String × Option Contract.Body)}
    (given : operation.responses = some responses) :
    ∃ properties, children id (fun status body =>
      ofBody s!"{status} response for {summaryOf method route}" body) responses =
        .ok properties := by
  obtain ⟨_, _, _, result, _, _, _, _, _, responsesMade⟩ := exists_operationFields made
  rw [given] at responsesMade
  cases result with
  | none => cases ofResponses_eq_none.1 responsesMade
  | some inner =>
      obtain ⟨_, properties, ⟨⟩, bodiesMade, _⟩ := ofResponses_eq_some.1 responsesMade
      exact ⟨properties, bodiesMade⟩

theorem at?_response {schema : Schema} {status : String}
    (made : ofOperation route method (some operation) = .ok (some schema))
    (once : ∀ responses, operation.responses = some responses → (responses.map Prod.fst).Nodup)
    (distinct : ∀ fields, operation.Copies fields → (fields.map Prod.fst).Nodup) :
    schema.toValue.at? ["properties", "responses", "properties", status] = some node ↔
      ∃ body, operation.response? status = some body ∧
        BodyNode s!"{status} response for {summaryOf method route}" body node := by
  rw [at?_responses made]
  have names {responses} (given : operation.responses = some responses) {body : Contract.Body}
      (found : Fields.get? responses status = some (some body)) (fields : Fields)
      (schema : body.schema? = some fields) : (fields.map Prod.fst).Nodup :=
    distinct fields (.response given (Fields.mem_of_get? found) schema)
  constructor
  · intro below
    rcases below with ⟨responses, properties, given, bodiesMade, below⟩
    rw [← id_eq status, at?_children Function.injective_id (once responses given) bodiesMade]
      at below
    obtain ⟨_, schema, found, bodyMade, isNode⟩ := below
    obtain ⟨body, rfl, shown⟩ := (bodyNode_iff bodyMade fun body fields isGiven =>
      names given (isGiven ▸ found) fields).1 ⟨schema, rfl, isNode⟩
    exact ⟨body, Contract.response?_eq_some.2 ⟨responses, given, found⟩, shown⟩
  · intro below
    rcases below with ⟨body, known, shown⟩
    obtain ⟨responses, given, found⟩ := Contract.response?_eq_some.1 known
    obtain ⟨properties, bodiesMade⟩ := exists_bodies made given
    refine ⟨responses, properties, given, bodiesMade, ?_⟩
    rw [← id_eq status, at?_children Function.injective_id (once responses given) bodiesMade]
    obtain ⟨result, bodyMade⟩ := built_of_children bodiesMade (Fields.mem_of_get? found)
    obtain ⟨schema, rfl, isNode⟩ := (bodyNode_iff bodyMade fun body fields isGiven =>
      names given (isGiven ▸ found) fields).2 ⟨body, rfl, shown⟩
    exact ⟨_, schema, found, bodyMade, isNode⟩

/-! ## Which levels there are -/

theorem isSome_ofPathItem {item : Option Contract.PathItem} {result : Option Schema}
    (made : ofPathItem route item = .ok result) :
    result.isSome = Contract.PathItem.HasMethods item := by
  cases result with
  | none =>
      have empty := ofPathItem_eq_none.1 made
      cases item with
      | none => rfl
      | some item => simp [Contract.PathItem.HasMethods, empty item rfl]
  | some schema =>
      obtain ⟨given, _, rfl, some, _⟩ := ofPathItem_eq_some.1 made
      simp [Contract.PathItem.HasMethods, some]

theorem isSome_ofOperation {operation : Option Contract.Operation} {result : Option Schema}
    (made : ofOperation route method operation = .ok result) :
    result.isSome = operation.isSome := by
  cases result with
  | none =>
      rw [ofOperation_eq_none.1 made]
      rfl
  | some schema =>
      obtain ⟨_, _, _, _, rfl, _⟩ := ofOperation_eq_some.1 made
      rfl

theorem isSome_ofBody {fallback : String} {body : Option Contract.Body} {result : Option Schema}
    (made : ofBody fallback body = .ok result) :
    result.isSome = Contract.Body.HasSchema body := by
  cases result with
  | none =>
      rw [Contract.Body.HasSchema, ofBody_eq_none.1 made]
      rfl
  | some schema =>
      obtain ⟨given, fields, _, rfl, found, _⟩ := ofBody_eq_some.1 made
      simp [Contract.Body.HasSchema, found]

/-- The routes of the tree are those with a method, in document order. -/
theorem keysAt_routes (built : ofDocument contract = .ok tree) :
    tree.toValue.KeysAt ["properties"] ((contract.paths.filter fun route =>
      Contract.PathItem.HasMethods route.2).map Prod.fst) := by
  obtain ⟨properties, made, rfl⟩ := ofDocument_eq_ok built
  refine ⟨propertiesToFields properties, at?_closed [], ?_⟩
  rw [names_propertiesToFields]
  exact names_children _ (fun route _ _ => isSome_ofPathItem) made

/-- The methods of a route of the tree are those with an operation, in document order. -/
theorem keysAt_methods (distinct : contract.Distinct) (built : ofDocument contract = .ok tree)
    {item : Contract.PathItem} (found : Fields.get? contract.paths route = some (some item))
    (some : item.operations ≠ []) :
    tree.toValue.KeysAt ["properties", route, "properties"]
      ((item.operations.filter fun method => method.2.isSome).map fun method => method.1.name) := by
  obtain ⟨properties, made⟩ := exists_operations built found some
  refine ⟨propertiesToFields properties, ?_, ?_⟩
  · exact (at?_route distinct built).2 ⟨item, properties, found, some, made, at?_closed []⟩
  · rw [names_propertiesToFields]
    exact names_children _ (fun method _ _ => isSome_ofOperation) made

/-- The status codes of an operation of the tree are those whose body has a schema, in document
order. -/
theorem keysAt_statuses (distinct : contract.Distinct) (built : ofDocument contract = .ok tree)
    (known : contract.operation? route method = some operation)
    {responses : List (String × Option Contract.Body)}
    (given : operation.responses = some responses) :
    tree.toValue.KeysAt (operationPath route method ++ ["properties", "responses", "properties"])
      ((responses.filter fun status => Contract.Body.HasSchema status.2).map Prod.fst) := by
  obtain ⟨schema, made⟩ := exists_ofOperation built known
  obtain ⟨properties, bodiesMade⟩ := exists_bodies made given
  refine ⟨propertiesToFields properties, ?_, ?_⟩
  · exact (at?_operation distinct built).2 ⟨operation, schema, known, made,
      (at?_responses made).2 ⟨responses, properties, given, bodiesMade, at?_closed []⟩⟩
  · rw [names_propertiesToFields]
    refine names_children _ ?_ bodiesMade
    exact fun status _ _ => isSome_ofBody

/-- The bodies of a contract correspond to nodes of the JSON form of its tree: a response or a
request body has a node where its content has a schema, and the node is this schema with the
description of the body in place. Routes with a method, methods with an operation and status codes
with a schema stand in document order, and no others do. -/
theorem bodies_of_schema (distinct : contract.Distinct) (built : ofDocument contract = .ok tree) :
    tree.toValue.KeysAt ["properties"] ((contract.paths.filter fun route =>
        Contract.PathItem.HasMethods route.2).map Prod.fst) ∧
      (∀ route item, Fields.get? contract.paths route = some (some item) → item.operations ≠ [] →
        tree.toValue.KeysAt ["properties", route, "properties"]
          ((item.operations.filter fun method => method.2.isSome).map
            fun method => method.1.name)) ∧
      (∀ route method operation responses, contract.operation? route method = some operation →
        operation.responses = some responses →
        tree.toValue.KeysAt
          (operationPath route method ++ ["properties", "responses", "properties"])
          ((responses.filter fun status => Contract.Body.HasSchema status.2).map Prod.fst)) ∧
      (∀ route method status node,
        tree.toValue.at? (operationPath route method ++
            ["properties", "responses", "properties", status]) = some node ↔
          ∃ operation body, contract.operation? route method = some operation ∧
            operation.response? status = some body ∧
            BodyNode s!"{status} response for {summaryOf method route}" body node) ∧
      ∀ route method node,
        tree.toValue.at? (operationPath route method ++ ["properties", "requestBody"]) =
            some node ↔
          ∃ operation body, contract.operation? route method = some operation ∧
            operation.requestBody = some body ∧
            BodyNode s!"Request body for {summaryOf method route}" body node := by
  have names {route method operation} (known : contract.operation? route method = some operation)
      (fields : Fields) (copies : operation.Copies fields) : (fields.map Prod.fst).Nodup := by
    obtain ⟨item, found, methodFound⟩ := Contract.operation?_eq_some.1 known
    exact distinct.names fields ⟨route, item, method, operation, Fields.mem_of_get? found,
      Fields.mem_of_get? methodFound, copies⟩
  have statuses {route method operation}
      (known : contract.operation? route method = some operation)
      (responses : List (String × Option Contract.Body))
      (given : operation.responses = some responses) : (responses.map Prod.fst).Nodup := by
    obtain ⟨item, found, methodFound⟩ := Contract.operation?_eq_some.1 known
    exact distinct.statuses route item method operation responses (Fields.mem_of_get? found)
      (Fields.mem_of_get? methodFound) given
  refine ⟨keysAt_routes built, fun _ _ => keysAt_methods distinct built,
    fun _ _ _ _ known given => keysAt_statuses distinct built known given, ?_, ?_⟩
  · intro route method status node
    rw [at?_operation distinct built]
    constructor
    · intro given
      rcases given with ⟨operation, schema, known, made, below⟩
      obtain ⟨body, response, shown⟩ := (at?_response made (statuses known) (names known)).1 below
      exact ⟨operation, body, known, response, shown⟩
    · intro given
      rcases given with ⟨operation, body, known, response, shown⟩
      obtain ⟨schema, made⟩ := exists_ofOperation built known
      exact ⟨operation, schema, known, made,
        (at?_response made (statuses known) (names known)).2 ⟨body, response, shown⟩⟩
  · intro route method node
    rw [at?_operation distinct built]
    constructor
    · intro given
      rcases given with ⟨operation, schema, known, made, below⟩
      obtain ⟨body, request, shown⟩ := (at?_requestBody made (names known)).1 below
      exact ⟨operation, body, known, request, shown⟩
    · intro given
      rcases given with ⟨operation, body, known, request, shown⟩
      obtain ⟨schema, made⟩ := exists_ofOperation built known
      exact ⟨operation, schema, known, made,
        (at?_requestBody made (names known)).2 ⟨body, request, shown⟩⟩

/-- The fields of a schema without a description. -/
def plainFields : Fields := [("type", .text "string")]

/-- The node of a response whose schema has no description has that of the response. -/
theorem bodies_of_schema_plain :
    (responding plainFields none).Distinct ∧
      ofDocument (responding plainFields none) = .ok (responseTree plainFields) ∧
      (responseTree plainFields).toValue.at?
          (operationPath "/n" .get ++ ["properties", "responses", "properties", "200"]) =
        some (.ofFields [("type", .text "string"),
          ("description", .text "200 response for GET /n")]) := by
  have checked : Contract.checkDocument (respond (.ofFields plainFields) []) =
      .ok (responding plainFields none) := by cbv
  have built : ofDocument (responding plainFields none) = .ok (responseTree plainFields) := by cbv
  have distinct := Contract.distinct_of_checkDocument checked
  refine ⟨distinct, built, ?_⟩
  refine ((bodies_of_schema distinct built).2.2.2.1 "/n" .get "200" _).2 ⟨_, _, rfl, rfl, ?_⟩
  exact ⟨plainFields, _, .json rfl rfl rfl, .fallback rfl rfl, rfl⟩

/-- The fields of a schema whose description is given as bytes. -/
def encodedFields : Fields := [("description", .scalar (.bytes [104, 105]))]

/-- A description that is given as bytes is replaced by the text that they encode, though it is
there. -/
theorem encoded_description_replaced :
    Contract.checkDocument (respond (.ofFields encodedFields) []) =
        .ok (responding encodedFields none) ∧
      ∃ tree, ofDocument (responding encodedFields none) = .ok tree ∧
        tree.toValue.at?
            (operationPath "/n" .get ++ ["properties", "responses", "properties", "200"]) =
          some (.ofFields [("description", .text "hi")]) ∧
        Value.ofFields [("description", .text "hi")] ≠ .ofFields encodedFields := by
  have built : ofDocument (responding encodedFields none) =
      .ok (.closed none [("/n", .closed none [("get", .closed (some "GET /n")
        [("responses", .closed (some "Response(s) for GET /n")
          [("200", .fragment encodedFields (some "hi"))])])])]) := by cbv
  refine ⟨by cbv, _, built, by rfl, ?_⟩
  intro impossible
  cases impossible

end Schema

end RouteTypes
