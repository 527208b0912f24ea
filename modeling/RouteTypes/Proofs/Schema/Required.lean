import Mathlib
import RouteTypes.Proofs.Diagnostics
import RouteTypes.Proofs.Generator
import RouteTypes.Proofs.Schema.Levels

/-!
# Required names without a property

An object of the tree of a contract requires the names of its properties and no others, unless it
is a group of parameters: that requires the required parameters which have no schema, too. These
are the ones that a warning is shown for when the contract is compiled (`warned_of_required`).
-/

namespace RouteTypes

namespace Schema

/-- A node stands in a tree at the end of a path of property names. -/
inductive At : Schema → List String → Schema → Prop where
  | here (node : Schema) : At node [] node
  | property {description : Option String} {properties : List (String × Schema)}
      {required : List String} {additional : Bool} {name : String} {child node : Schema}
      {path : List String} (member : (name, child) ∈ properties) (inner : At child path node) :
      At (.object description properties required additional) (name :: path) node

/-- A node is an object that requires a name without having a property for it. -/
def Lacks (name : String) : Schema → Prop
  | .object _ properties required _ => name ∈ required ∧ name ∉ properties.map Prod.fst
  | .fragment _ _ => False

/-- An object requires the names of its properties, in their order. -/
def Exact : Schema → Prop
  | .object _ properties required _ => required = properties.map Prod.fst
  | .fragment _ _ => True

/-- An object requires the names of its properties, in their order, and is open to no others. -/
def Closed : Schema → Prop
  | .object _ properties required additional =>
    required = properties.map Prod.fst ∧ additional = false
  | .fragment _ _ => True

variable {path : List String} {node schema : Schema} {name route summary fallback : String}
variable {contract : Contract.Document}

theorem Closed.exact (isClosed : node.Closed) : node.Exact := by
  cases node with
  | object => exact isClosed.1
  | fragment => trivial

theorem not_lacks_of_exact (exact : node.Exact) : ¬node.Lacks name := by
  cases node with
  | object =>
      rintro ⟨isRequired, missing⟩
      exact missing (exact ▸ isRequired)
  | fragment => exact id

/-! ## One level of the tree -/

theorem closed_of_fragment {fields : Fields} {description : Option String}
    (stands : (fragment fields description).At path node) : node.Closed := by
  cases stands
  trivial

/-- An object that is made closed is closed, and the others in it stand below its properties. -/
theorem closed_or_below {description : Option String} {properties : List (String × Schema)}
    (stands : (closed description properties).At path node) :
    node.Closed ∨ ∃ field child rest, (field, child) ∈ properties ∧ path = field :: rest ∧
      child.At rest node := by
  cases stands with
  | here => exact .inl ⟨rfl, rfl⟩
  | property member inner => exact .inr ⟨_, _, _, member, rfl, inner⟩

theorem closed_of_ofBody {body : Option Contract.Body}
    (made : ofBody fallback body = .ok (some schema)) (stands : schema.At path node) :
    node.Closed := by
  obtain ⟨_, fields, text, _, _, _, rfl⟩ := ofBody_eq_some.1 made
  exact closed_of_fragment stands

theorem closed_of_ofResponses {responses : Option (List (String × Option Contract.Body))}
    (made : ofResponses summary responses = .ok (some schema)) (stands : schema.At path node) :
    node.Closed := by
  obtain ⟨_, properties, _, bodies, rfl⟩ := ofResponses_eq_some.1 made
  rcases closed_or_below stands with closed | ⟨field, child, rest, member, rfl, inner⟩
  · exact closed
  · obtain ⟨_, _, schema, bodyMade, same⟩ := (mem_children bodies).1 member
    cases same
    exact closed_of_ofBody bodyMade inner

/-! ## Groups of parameters -/

theorem fragments_of_parameterProperties {parameters : List Contract.Parameter}
    {before results : List (String × Schema)}
    (old : ∀ property ∈ before, ∃ fields text, property.2 = .fragment fields text)
    (made : parameterProperties before parameters = .ok results) :
    ∀ property ∈ results, ∃ fields text, property.2 = .fragment fields text := by
  induction parameters generalizing before with
  | nil =>
      cases made
      exact old
  | cons parameter rest ih =>
      cases own : parameter.schema? with
      | none =>
          rw [parameterProperties, own] at made
          exact ih old made
      | some fields =>
          simp only [parameterProperties, own, Checked.bind_eq_ok] at made
          obtain ⟨schema, built, made⟩ := made
          obtain ⟨⟨text, rfl⟩, _⟩ := fragmentOf_eq_ok built
          refine ih ?_ made
          intro property member
          rcases Fields.mem_of_mem_put member with rfl | member
          · exact ⟨fields, text, rfl⟩
          · exact old property member

/-- The properties of a group have the names of the parameters with a schema. -/
theorem names_of_parameterProperties {parameters : List Contract.Parameter}
    {before results : List (String × Schema)}
    (made : parameterProperties before parameters = .ok results) :
    name ∈ results.map Prod.fst ↔ name ∈ before.map Prod.fst ∨
      ∃ parameter ∈ parameters, parameter.schema? ≠ none ∧ parameter.name = name := by
  induction parameters generalizing before with
  | nil =>
      cases made
      simp
  | cons parameter rest ih =>
      cases own : parameter.schema? with
      | none =>
          rw [parameterProperties, own] at made
          simp [ih made, own]
      | some fields =>
          simp only [parameterProperties, own, Checked.bind_eq_ok] at made
          obtain ⟨schema, _, made⟩ := made
          rw [ih made, Fields.mem_names_put]
          simp [own, or_assoc, eq_comm]

/-- What stands in a group of parameters is the group or one of its fragments. -/
theorem closed_or_group_ofGroup {parameters : List Contract.Parameter} {group : Group}
    (made : ofGroup summary parameters group = .ok (some schema)) (stands : schema.At path node) :
    node.Closed ∨ path = [] ∧ node = schema := by
  rcases ofGroup_eq_ok_iff.1 made with ⟨_, ⟨⟩⟩ | ⟨_, properties, built, ⟨⟩⟩
  cases stands with
  | here => exact .inr ⟨rfl, rfl⟩
  | property member inner =>
      obtain ⟨fields, text, rfl⟩ := fragments_of_parameterProperties (by simp) built _ member
      exact .inl (closed_of_fragment inner)

/-- A group of parameters lacks a property only for a required parameter without a schema. -/
theorem untyped_of_ofGroup {parameters : List Contract.Parameter} {group : Group}
    (made : ofGroup summary parameters group = .ok (some node)) (lacks : node.Lacks name) :
    ∃ parameter ∈ parameters, parameter.location = group.location ∧ parameter.required ∧
      parameter.schema? = none ∧ parameter.name = name := by
  rcases ofGroup_eq_ok_iff.1 made with ⟨_, ⟨⟩⟩ | ⟨_, properties, built, ⟨⟩⟩
  obtain ⟨isRequired, missing⟩ := lacks
  rw [names_of_parameterProperties built] at missing
  simp only [requiredNames, Contract.sentTo, List.mem_map, List.mem_filter] at isRequired
  obtain ⟨parameter, ⟨⟨member, located⟩, required⟩, rfl⟩ := isRequired
  refine ⟨parameter, member, by simpa using located, required, ?_, rfl⟩
  by_contra typed
  exact missing (.inr ⟨parameter, List.mem_filter.2 ⟨member, located⟩, typed, rfl⟩)

/-! ## Operations, routes and contracts -/

theorem closed_or_group_ofOperation {method : Contract.Method}
    {operation : Option Contract.Operation}
    (made : ofOperation route method operation = .ok (some schema)) (stands : schema.At path node) :
    node.Closed ∨ ∃ given, operation = some given ∧ ∃ group ∈ groups, path = [group.field] ∧
      ofGroup (summaryOf method route) given.parameters group = .ok (some node) := by
  obtain ⟨given, body, groupResults, responses, rfl, bodyMade, groupsMade, responsesMade, rfl⟩ :=
    ofOperation_eq_some.1 made
  rcases closed_or_below stands with closed | ⟨field, child, rest, member, rfl, inner⟩
  · exact .inl closed
  simp only [present, List.mem_filterMap, Option.map_eq_some_iff] at member
  obtain ⟨⟨_, result⟩, member, _, rfl, same⟩ := member
  cases same
  rcases List.mem_append.1 member with member | last
  · rcases List.mem_cons.1 member with first | member
    · cases first
      exact .inl (closed_of_ofBody bodyMade inner)
    · obtain ⟨group, known, rfl, groupMade⟩ := group_of_ofGroups groupsMade member
      rcases closed_or_group_ofGroup groupMade inner with closed | ⟨rfl, rfl⟩
      · exact .inl closed
      · exact .inr ⟨given, rfl, group, known, rfl, groupMade⟩
  · cases List.mem_singleton.1 last
    exact .inl (closed_of_ofResponses responsesMade inner)

theorem closed_or_group_ofPathItem {item : Option Contract.PathItem}
    (made : ofPathItem route item = .ok (some schema)) (stands : schema.At path node) :
    node.Closed ∨ ∃ given method operation, item = some given ∧
      (method, some operation) ∈ given.operations ∧ ∃ group ∈ groups,
        path = [method.name, group.field] ∧
        ofGroup (summaryOf method route) operation.parameters group = .ok (some node) := by
  obtain ⟨given, properties, rfl, _, operations, rfl⟩ := ofPathItem_eq_some.1 made
  rcases closed_or_below stands with closed | ⟨field, child, rest, member, rfl, inner⟩
  · exact .inl closed
  obtain ⟨⟨method, operation⟩, operationMember, schema, operationMade, same⟩ :=
    (mem_children operations).1 member
  cases same
  rcases closed_or_group_ofOperation operationMade inner with
    closed | ⟨operation, rfl, group, known, rfl, groupMade⟩
  · exact .inl closed
  · exact .inr ⟨given, method, operation, rfl, operationMember, group, known, rfl, groupMade⟩

/-- An object of the tree of a contract is closed, or it is a group of parameters. -/
theorem closed_or_group_ofDocument {tree : Schema} (built : ofDocument contract = .ok tree)
    (stands : tree.At path node) :
    node.Closed ∨ ∃ route item method operation, (route, some item) ∈ contract.paths ∧
      (method, some operation) ∈ item.operations ∧ ∃ group ∈ groups,
        path = [route, method.name, group.field] ∧
        ofGroup (summaryOf method route) operation.parameters group = .ok (some node) := by
  rw [ofDocument, Checked.bind_eq_ok] at built
  obtain ⟨properties, made, built⟩ := built
  cases built
  rcases closed_or_below stands with closed | ⟨field, child, rest, member, rfl, inner⟩
  · exact .inl closed
  obtain ⟨⟨route, item⟩, itemMember, schema, itemMade, same⟩ := (mem_children made).1 member
  cases same
  rcases closed_or_group_ofPathItem itemMade inner with
    closed | ⟨item, method, operation, rfl, operationMember, group, known, rfl, groupMade⟩
  · exact .inl closed
  · exact .inr ⟨route, item, method, operation, itemMember, operationMember, group, known, rfl,
      groupMade⟩

/-- An object of the tree of a contract requires its properties, or it is a group of parameters. -/
theorem exact_or_group_ofDocument {tree : Schema} (built : ofDocument contract = .ok tree)
    (stands : tree.At path node) :
    node.Exact ∨ ∃ route item method operation, (route, some item) ∈ contract.paths ∧
      (method, some operation) ∈ item.operations ∧ ∃ group ∈ groups,
        path = [route, method.name, group.field] ∧
        ofGroup (summaryOf method route) operation.parameters group = .ok (some node) :=
  (closed_or_group_ofDocument built stands).imp_left Closed.exact

/-- A node is a group of parameters of an operation, and the operation has a required parameter of
a name in this group that has no schema. -/
structure Untyped (route : String) (method : Contract.Method) (operation : Contract.Operation)
    (group : Group) (node : Schema) (name : String) : Prop where
  known : group ∈ groups
  made : ofGroup (summaryOf method route) operation.parameters group = .ok (some node)
  reported : ⟨route, method, group.location, name⟩ ∈
    UntypedParameter.ofOperation route method operation

theorem untyped_of_ofDocument {tree : Schema} (built : ofDocument contract = .ok tree)
    (stands : tree.At path node) (lacks : node.Lacks name) :
    ∃ route item method operation group, (route, some item) ∈ contract.paths ∧
      (method, some operation) ∈ item.operations ∧ path = [route, method.name, group.field] ∧
      Untyped route method operation group node name := by
  rcases exact_or_group_ofDocument built stands with
    exact | ⟨route, item, method, operation, itemMember, operationMember, group, known, rfl, made⟩
  · exact absurd lacks (not_lacks_of_exact exact)
  · obtain ⟨parameter, member, located, required, untyped, rfl⟩ := untyped_of_ofGroup made lacks
    refine ⟨route, item, method, operation, group, itemMember, operationMember, rfl, known, made,
      List.mem_map.2 ⟨parameter, ?_, ?_⟩⟩
    · exact List.mem_filter.2 ⟨member, by simp [required, untyped]⟩
    · rw [located]

end Schema

variable {contract : Contract.Document}

theorem UntypedParameter.mem_ofDocument {route : String} {item : Contract.PathItem}
    {method : Contract.Method} {operation : Contract.Operation} {parameter : UntypedParameter}
    (itemMember : (route, some item) ∈ contract.paths)
    (operationMember : (method, some operation) ∈ item.operations)
    (reported : parameter ∈ ofOperation route method operation) :
    parameter ∈ ofDocument contract :=
  List.mem_flatMap.2 ⟨_, itemMember, List.mem_flatMap.2 ⟨_, operationMember, reported⟩⟩

/-- A warning stands among the messages that compiling a contract shows, whatever comes of it. -/
theorem Generator.warned_of_mem {parameter : UntypedParameter}
    (reported : parameter ∈ UntypedParameter.ofDocument contract) (compiler : Compiler)
    (world : World) :
    (∃ before behind, ((compile ⟨contract, none⟩ compiler).run.run world).2.messages =
      world.messages ++ before ++ world.diagnostics.render .warning parameter.message ++
        behind) ∧
      world.diagnostics.Warns parameter.message
        (world.diagnostics.render .warning parameter.message) := by
  obtain ⟨shown, said⟩ := messages_compile contract compiler world
  obtain ⟨first, last, parts⟩ := List.append_of_mem reported
  let shows (parameters : List UntypedParameter) : String :=
    String.join ((parameters.map UntypedParameter.message).map (world.diagnostics.render .warning))
  refine ⟨⟨shows first, shows last ++ shown, said.trans ?_⟩, world.diagnostics.warns_render _⟩
  rw [parts, World.told]
  simp only [shows, List.map_append, List.map_cons, String.join_append, String.join_cons,
    String.append_assoc]

/-- A contract with a route that requires a header without a schema. -/
def guarded : Contract.Document where
  openapi := "3.0.0"
  info := Contract.Info.default
  paths := [("/n", some
    { operations := [(.get, some
        { description := none
          parameters := [⟨"X-Key", .header, true, none, none, none, []⟩]
          requestBody := none
          responses := none
          extras := [] })]
      extras := [] })]
  components := none
  extras := []

/-- The headers of `guarded`. -/
def guardedHeaders : Schema := .object (some "Headers for GET /n") [] ["X-Key"] true

/-- The warning about the header of `guarded`. -/
def guardedMessage : String :=
  "Required header parameter 'X-Key' of GET /n has no schema; it is typed as optional"

/-- A world with a narrow terminal. -/
def World.narrow : World := .start .bare ⟨false, false, false, 20, []⟩

end RouteTypes
