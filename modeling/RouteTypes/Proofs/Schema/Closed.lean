import RouteTypes.Proofs.Schema.Bodies
import RouteTypes.Proofs.Schema.Parameters
import RouteTypes.Proofs.Schema.Repetitions

/-!
# Objects that require what they contain

Routes, operations and responses are objects that require exactly their properties, each once, and
are open to nothing else. All properties are schemas. The JSON form of the tree keeps this
(`required_eq_properties`): what an object requires are the keys of its properties, in their order.
-/

namespace RouteTypes.Schema

variable {contract : Contract.Document} {tree schema : Schema} {path : List String}

/-- The keys that lead to the end of a path of property names in the JSON form of a tree. -/
def keysOf (path : List String) : List String :=
  path.flatMap fun name => ["properties", name]

/-- The JSON form of a schema is a mapping. -/
@[simp] theorem isNull_toValue (schema : Schema) : schema.toValue.isNull = false := rfl

/-- In the JSON form of a tree the same paths lead to the JSON forms of the same nodes. -/
theorem at?_of_at {node : Schema} (unambiguous : schema.Unambiguous)
    (stands : schema.At path node) : schema.toValue.at? (keysOf path) = some node.toValue := by
  induction stands with
  | here => rfl
  | property member _ ih =>
      cases unambiguous with
      | object names below =>
          rw [keysOf, List.flatMap_cons, List.cons_append, List.cons_append, List.nil_append,
            at?_properties, Value.at?_ofFields, get?_propertiesToFields,
            Fields.get?_of_mem names member]
          exact ih (below _ member)

@[simp] theorem at?_additional {description : Option String} {properties : List (String × Schema)}
    {required : List String} {additional : Bool} :
    (object description properties required additional).toValue.at? ["additionalProperties"] =
      some (.bool additional) := by
  cases description <;> simp [toValue, toFields, Value.at?_ofFields, Fields.get?_cons] <;> rfl

/-- A node of the JSON form of a tree requires the given names and has the schemas of the given
properties, which are all that it is open to. -/
structure ClosedNode (properties : List (String × Schema)) (node : Value) : Prop where
  required : node.at? ["required"] = some (.list ((properties.map Prod.fst).map .text))
  names : node.KeysAt ["properties"] (properties.map Prod.fst)
  additional : node.at? ["additionalProperties"] = some (.bool false)
  schemas : ∀ name child, (name, child) ∈ properties →
    node.at? ["properties", name] = some child.toValue ∧ child.toValue.isNull = false

theorem closedNode_closed {description : Option String} {properties : List (String × Schema)}
    (names : (properties.map Prod.fst).Nodup) :
    ClosedNode properties (closed description properties).toValue where
  required := at?_required
  names := ⟨propertiesToFields properties, at?_closed [], names_propertiesToFields⟩
  additional := at?_additional
  schemas name child member := by
    refine ⟨?_, isNull_toValue child⟩
    rw [at?_closed, Value.at?_ofFields, get?_propertiesToFields, Fields.get?_of_mem names member]
    rfl

/-- An object of the tree of a contract that is no group of parameters requires the names of its
properties in their order, each once, and is open to no others. In the JSON form of the tree the
same holds of the keys of its properties, each of which has the JSON form of a schema and not the
absent value. -/
theorem required_eq_properties (distinct : contract.Distinct)
    (built : ofDocument contract = .ok tree) {description : Option String}
    {properties : List (String × Schema)} {required : List String} {additional : Bool}
    (stands : tree.At path (.object description properties required additional))
    (noGroup : ∀ route method location,
      path ≠ [route, Contract.Method.name method, Contract.Location.field location]) :
    required = properties.map Prod.fst ∧ required.Nodup ∧ additional = false ∧
      ∃ node, tree.toValue.at? (keysOf path) = some node ∧ ClosedNode properties node := by
  have unambiguous := unambiguous_ofDocument distinct built
  rcases closed_or_group_ofDocument built stands with
    isClosed | ⟨route, _, method, _, _, _, group, known, isPath, _⟩
  · obtain ⟨rfl, rfl⟩ := isClosed
    cases unambiguous.of_at stands with
    | object names _ =>
        exact ⟨rfl, names, rfl, _, at?_of_at unambiguous stands, closedNode_closed names⟩
  · rw [field_of_mem known] at isPath
    exact absurd isPath (noGroup route method group.location)

/-- The responses of an operation are an object that requires its one status code. -/
theorem required_eq_properties_responses :
    (responding plainFields none).Distinct ∧
      ofDocument (responding plainFields none) = .ok (responseTree plainFields) ∧
      ∃ node, (responseTree plainFields).toValue.at?
          (keysOf ["/n", "get", "responses"]) = some node ∧
        node.at? ["required"] = some (.list [.text "200"]) ∧
        node.KeysAt ["properties"] ["200"] ∧
        node.at? ["additionalProperties"] = some (.bool false) := by
  have checked : Contract.checkDocument (respond (.ofFields plainFields) []) =
      .ok (responding plainFields none) := by cbv
  have built : ofDocument (responding plainFields none) = .ok (responseTree plainFields) := by cbv
  have distinct := Contract.distinct_of_checkDocument checked
  have stands : (responseTree plainFields).At ["/n", "get", "responses"]
      (.closed (some "Response(s) for GET /n")
        [("200", .fragment plainFields (some "200 response for GET /n"))]) :=
    .property List.mem_cons_self (.property List.mem_cons_self
      (.property List.mem_cons_self (.here _)))
  have noGroup (route : String) (method : Contract.Method) (location : Contract.Location) :
      ["/n", "get", "responses"] ≠ [route, method.name, location.field] := by
    cases location <;> simp [Contract.Location.field]
  obtain ⟨_, _, _, node, found, closed⟩ := required_eq_properties distinct built stands noGroup
  exact ⟨distinct, built, node, found, closed.required, closed.names, closed.additional⟩

end RouteTypes.Schema
