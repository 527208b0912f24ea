import RouteTypes.Proofs.Schema.Names
import RouteTypes.Proofs.Schema.Parameters
import RouteTypes.Proofs.Schema.Required

/-!
# Names that are required twice

An object of the tree of a contract that is no group of parameters requires the names of its
properties, and these stand once (`nodup_or_group`). A group requires the names of its required
parameters, which stand in a list (`required_of_groupAt`). So the required names of all objects are
distinct exactly if no operation has two required parameters of one name in one place
(`required_nodup_iff`).
-/

namespace RouteTypes

namespace Contract

/-- No two required parameters of an operation have the same name and are sent to the same place. -/
def Operation.Unrepeated (operation : Operation) : Prop :=
  (operation.parameters.filter (·.required)).Pairwise fun first second =>
    first.location = second.location → first.name ≠ second.name

/-- A path leads to the group of an operation for the parameters that are sent to a place. -/
def Document.GroupAt (contract : Document) (path : List String) (location : Location)
    (operation : Operation) : Prop :=
  ∃ route item method, (route, some item) ∈ contract.paths ∧
    (method, some operation) ∈ item.operations ∧ path = [route, method.name, location.field]

theorem Location.field_injective : Location.field.Injective := by
  intro left right same
  cases left <;> cases right <;> simp_all [field]

end Contract

namespace Schema

open Contract (sentTo)

variable {contract : Contract.Document} {tree node : Schema} {path : List String}
variable {route : String} {method : Contract.Method}

theorem Unambiguous.of_at (unambiguous : tree.Unambiguous) (stands : tree.At path node) :
    node.Unambiguous := by
  induction stands with
  | here => exact unambiguous
  | property member _ ih =>
      cases unambiguous with
      | object _ below => exact ih (below _ member)

/-- The names that an object requires are distinct, or it is a group and they are those of the
required parameters that are sent to its place. -/
theorem nodup_or_group (distinct : contract.Distinct) (built : ofDocument contract = .ok tree)
    {description : Option String} {properties : List (String × Schema)} {required : List String}
    {additional : Bool}
    (stands : tree.At path (.object description properties required additional)) :
    required.Nodup ∨ ∃ location operation, contract.GroupAt path location operation ∧
      required = requiredNames (sentTo location operation.parameters) := by
  rcases exact_or_group_ofDocument built stands with
    exact | ⟨route, item, method, operation, itemMember, operationMember, group, known, rfl, made⟩
  · left
    cases (unambiguous_ofDocument distinct built).of_at stands with
    | object names _ =>
        rw [exact]
        exact names
  · rcases ofGroup_eq_ok_iff.1 made with ⟨_, ⟨⟩⟩ | ⟨_, _, _, ⟨⟩⟩
    exact .inr ⟨group.location, operation, ⟨route, item, method, itemMember, operationMember,
      by rw [field_of_mem known]⟩, rfl⟩

/-! ## Groups in the tree -/

/-- In a tree without ambiguous names there is one node at the end of a path. -/
theorem At.unique {other : Schema} (unambiguous : tree.Unambiguous) (left : tree.At path node)
    (right : tree.At path other) : node = other := by
  induction left with
  | here =>
      cases right
      rfl
  | property member _ ih =>
      cases right with
      | property otherMember inner =>
          cases unambiguous with
          | object names below =>
              have same := (Fields.get?_of_mem names member).symm.trans
                (Fields.get?_of_mem names otherMember)
              cases same
              exact ih (below _ member) inner

/-- What stands in the schema of an operation stands in the tree of its contract. -/
theorem exists_at_operation (built : ofDocument contract = .ok tree) {item : Contract.PathItem}
    {operation : Contract.Operation} (itemMember : (route, some item) ∈ contract.paths)
    (operationMember : (method, some operation) ∈ item.operations) :
    ∃ schema, ofOperation route method (some operation) = .ok (some schema) ∧
      ∀ path node, schema.At path node → tree.At (route :: method.name :: path) node := by
  obtain ⟨properties, made, rfl⟩ := ofDocument_eq_ok built
  obtain ⟨result, itemMade⟩ := built_of_children made itemMember
  cases result with
  | none =>
      rw [ofPathItem_eq_none.1 itemMade item rfl] at operationMember
      cases operationMember
  | some inner =>
      obtain ⟨_, operations, ⟨⟩, _, operationsMade, rfl⟩ := ofPathItem_eq_some.1 itemMade
      obtain ⟨result, operationMade⟩ := built_of_children operationsMade operationMember
      cases result with
      | none => cases ofOperation_eq_none.1 operationMade
      | some schema =>
          refine ⟨schema, operationMade, fun path node stands => ?_⟩
          refine .property ((mem_children made).2 ⟨_, itemMember, _, itemMade, rfl⟩) ?_
          exact .property ((mem_children operationsMade).2 ⟨_, operationMember, _, operationMade,
            rfl⟩) stands

/-- The group of an operation for a place to which any parameters are sent stands in the tree. -/
theorem exists_at_group (built : ofDocument contract = .ok tree) {item : Contract.PathItem}
    {operation : Contract.Operation} {location : Contract.Location}
    (itemMember : (route, some item) ∈ contract.paths)
    (operationMember : (method, some operation) ∈ item.operations)
    (sent : sentTo location operation.parameters ≠ []) :
    ∃ description properties additional, tree.At [route, method.name, location.field]
      (.object description properties (requiredNames (sentTo location operation.parameters))
        additional) := by
  obtain ⟨schema, operationMade, stands⟩ := exists_at_operation built itemMember operationMember
  obtain ⟨_, body, results, responses, ⟨⟩, _, groupsMade, _, rfl⟩ :=
    ofOperation_eq_some.1 operationMade
  obtain ⟨group, known, rfl⟩ := exists_group location
  obtain ⟨result, inside, groupMade⟩ := ofGroup_of_mem groupsMade known
  rcases ofGroup_eq_ok_iff.1 groupMade with ⟨none, _⟩ | ⟨_, properties, _, rfl⟩
  · exact absurd none sent
  · rw [← field_of_mem known]
    exact ⟨_, properties, _, stands _ _ (.property (List.mem_filterMap.2
      ⟨_, List.mem_append_left _ (List.mem_cons_of_mem _ inside), rfl⟩) (.here _))⟩

/-- What stands behind two properties stands in what they lead to. -/
theorem exists_at_of_at {first second : String} (stands : tree.At (first :: second :: path) node) :
    ∃ middle, tree.At [first, second] middle ∧ middle.At path node := by
  cases stands with
  | property member inner =>
      cases inner with
      | property other inner => exact ⟨_, .property member (.property other (.here _)), inner⟩

/-- The fields of the schema of an operation that are named as groups of parameters are these
groups. -/
theorem group_of_at {operation : Contract.Operation} {schema : Schema}
    {location : Contract.Location}
    (made : ofOperation route method (some operation) = .ok (some schema))
    (stands : schema.At [location.field] node) :
    ∃ group ∈ groups, group.location = location ∧
      ofGroup (summaryOf method route) operation.parameters group = .ok (some node) := by
  obtain ⟨_, body, results, responses, ⟨⟩, _, groupsMade, _, rfl⟩ := ofOperation_eq_some.1 made
  have other : location.field ≠ "requestBody" ∧ location.field ≠ "responses" := by
    cases location <;> decide
  cases stands with
  | property member inner =>
      cases inner
      simp only [present, List.mem_filterMap, Option.map_eq_some_iff] at member
      obtain ⟨⟨name, result⟩, member, _, rfl, same⟩ := member
      obtain ⟨rfl, rfl⟩ := Prod.mk.inj same
      simp only [List.cons_append, List.mem_cons, List.mem_append, List.not_mem_nil, or_false,
        Prod.mk.injEq, other, false_and, false_or] at member
      obtain ⟨group, known, isField, groupMade⟩ := group_of_ofGroups groupsMade member
      rw [field_of_mem known] at isField
      exact ⟨group, known, Contract.Location.field_injective isField, groupMade⟩

/-- A group requires the names of the required parameters that are sent to its place. -/
theorem required_of_groupAt (distinct : contract.Distinct) (built : ofDocument contract = .ok tree)
    {location : Contract.Location} {operation : Contract.Operation}
    (isGroup : contract.GroupAt path location operation) {description : Option String}
    {properties : List (String × Schema)} {required : List String} {additional : Bool}
    (stands : tree.At path (.object description properties required additional)) :
    required = requiredNames (sentTo location operation.parameters) := by
  obtain ⟨route, item, method, itemMember, operationMember, rfl⟩ := isGroup
  obtain ⟨schema, made, below⟩ := exists_at_operation built itemMember operationMember
  obtain ⟨middle, leads, stands⟩ := exists_at_of_at stands
  obtain rfl := leads.unique (unambiguous_ofDocument distinct built) (below [] schema (.here _))
  obtain ⟨group, _, rfl, groupMade⟩ := group_of_at made stands
  rcases ofGroup_eq_ok_iff.1 groupMade with ⟨_, ⟨⟩⟩ | ⟨_, _, _, ⟨⟩⟩
  rfl

theorem nodup_requiredNames_iff {operation : Contract.Operation} :
    (∀ location, (requiredNames (sentTo location operation.parameters)).Nodup) ↔
      operation.Unrepeated := by
  have pairs (location : Contract.Location) :
      (requiredNames (sentTo location operation.parameters)).Nodup ↔
        (operation.parameters.filter (·.required)).Pairwise fun first second =>
          first.location = location → second.location = location → first.name ≠ second.name := by
    rw [requiredNames, sentTo, List.filter_comm, List.Nodup, List.pairwise_map,
      List.pairwise_filter]
    simp only [decide_eq_true_eq]
  simp only [pairs]
  constructor
  · intro distinct
    rw [Contract.Operation.Unrepeated, List.pairwise_iff_forall_sublist]
    intro first second inside same
    exact List.pairwise_iff_forall_sublist.1 (distinct second.location) inside same rfl
  · intro unrepeated location
    refine unrepeated.imp ?_
    intro first second different firstSent secondSent
    exact different (firstSent.trans secondSent.symm)

/-- In the tree of an accepted contract a group of parameters requires the names of the required
parameters that are sent to its place, and the names that any other object requires are distinct. So
they are distinct throughout the tree exactly if no operation has two required parameters of one
name in one place. -/
theorem required_nodup_iff {document : Value} {base : Option String} {world : World}
    {generator : Generator}
    (accepted : ((Generator.create document base).run.run world).1 = .ok generator)
    (built : ofDocument generator.contract = .ok tree) :
    (∀ path description properties required additional,
      tree.At path (.object description properties required additional) →
        (∀ location operation, generator.contract.GroupAt path location operation →
          required = requiredNames (sentTo location operation.parameters)) ∧
        ((∀ location operation, ¬generator.contract.GroupAt path location operation) →
          required.Nodup)) ∧
    ((∀ path description properties required additional,
        tree.At path (.object description properties required additional) → required.Nodup) ↔
      ∀ route item method operation, (route, some item) ∈ generator.contract.paths →
        (method, some operation) ∈ item.operations → operation.Unrepeated) := by
  obtain ⟨flat, _, checked⟩ := create_eq_ok accepted
  have distinct := Contract.distinct_of_checkDocument checked
  refine ⟨?_, ?_, ?_⟩
  · intro path description properties required additional stands
    refine ⟨fun _ _ isGroup => required_of_groupAt distinct built isGroup stands, ?_⟩
    intro noGroup
    rcases nodup_or_group distinct built stands with once | ⟨_, _, isGroup, _⟩
    · exact once
    · exact absurd isGroup (noGroup _ _)
  · intro once route item method operation itemMember operationMember
    refine nodup_requiredNames_iff.1 fun location => ?_
    by_cases none : sentTo location operation.parameters = []
    · rw [none]
      exact List.nodup_nil
    · obtain ⟨_, _, _, stands⟩ := exists_at_group built itemMember operationMember none
      exact once _ _ _ _ _ stands
  · intro unrepeated path description properties required additional stands
    rcases nodup_or_group distinct built stands with
      once | ⟨location, operation, ⟨route, item, method, itemMember, operationMember, _⟩, rfl⟩
    · exact once
    · have once := unrepeated route item method operation itemMember operationMember
      exact nodup_requiredNames_iff.2 once location

/-- A required parameter, as a value. -/
def demand (location : Contract.Location) : Value :=
  .mapping [(.text "name", .text "id"), (.text "in", .text location.name),
    (.text "required", .bool true), (.text "schema", .ofFields plainFields)]

/-- A required parameter. -/
def demanded (location : Contract.Location) : Contract.Parameter :=
  ⟨"id", location, true, none, some plainFields, none, []⟩

/-- Two required parameters of one name that are sent to different places are required once each. -/
theorem required_nodup_iff_places :
    ∃ tree, ofDocument (inquiring [demanded .query, demanded .header]) = .ok tree ∧
      ∀ path description properties required additional,
        tree.At path (.object description properties required additional) → required.Nodup := by
  have accepted : ((Generator.create (inquire [demand .query, demand .header]) none).run.run
      World.bare).1 = .ok ⟨inquiring [demanded .query, demanded .header], none⟩ := by cbv
  have built : ofDocument (inquiring [demanded .query, demanded .header]) =
      .ok (.closed none [("/n", .closed none [("get", .closed (some "GET /n")
        [("headers", .object (some "Headers for GET /n")
            [("id", .fragment plainFields none)] ["id"] true),
          ("queryParams", .object (some "Query params for GET /n")
            [("id", .fragment plainFields none)] ["id"] false)])])]) := by cbv
  refine ⟨_, built, (required_nodup_iff accepted built).2.2 ?_⟩
  intro route item method operation itemMember operationMember
  cases List.mem_singleton.1 itemMember
  cases List.mem_singleton.1 operationMember
  simp [Contract.Operation.Unrepeated, demanded]

/-- The name of a required parameter that is given twice in one place is required twice. -/
theorem repeated_parameter_required_twice :
    ((Generator.create (inquire [demand .query, demand .query]) none).run.run World.bare).1 =
        .ok ⟨inquiring [demanded .query, demanded .query], none⟩ ∧
      ∃ tree, ofDocument (inquiring [demanded .query, demanded .query]) = .ok tree ∧
        ∃ path description properties required additional,
          tree.At path (.object description properties required additional) ∧
            ¬required.Nodup := by
  have built : ofDocument (inquiring [demanded .query, demanded .query]) =
      .ok (.closed none [("/n", .closed none [("get", .closed (some "GET /n")
        [("queryParams", .object (some "Query params for GET /n")
          [("id", .fragment plainFields none)] ["id", "id"] false)])])]) := by cbv
  have twice : ¬["id", "id"].Nodup := by decide
  exact ⟨by cbv, _, built, ["/n", "get", "queryParams"], _, _, _, _,
    .property List.mem_cons_self (.property List.mem_cons_self
      (.property List.mem_cons_self (.here _))), twice⟩

end Schema

end RouteTypes
