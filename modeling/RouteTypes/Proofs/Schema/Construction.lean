import RouteTypes.Proofs.Check.Success
import RouteTypes.Proofs.Schema.Tree

/-!
# Which schemas are copied into the tree

The fragments of the tree of a contract are the schemas of its bodies and, for each place where
parameters are sent, the last schema of each parameter name (`holds_ofDocument`). There is one
lemma for each function that builds a level of the tree.
-/

namespace RouteTypes

open Reference Value

namespace Contract

/-- The fields are the schema of a parameter behind which no other one of its name has any. -/
inductive Effective : List Parameter → Fields → Prop where
  | here {parameter : Parameter} {rest : List Parameter} {fields : Fields}
      (schema : parameter.schema? = some fields)
      (last : ∀ other ∈ rest, other.name = parameter.name → other.schema? = none) :
      Effective (parameter :: rest) fields
  | later {parameter : Parameter} {rest : List Parameter} {fields : Fields}
      (effective : Effective rest fields) : Effective (parameter :: rest) fields

/-- The fields are a schema of an operation that is copied into the tree. -/
inductive Operation.Copies (operation : Operation) (fields : Fields) : Prop where
  | request {body : Body} (requestBody : operation.requestBody = some body)
      (schema : body.schema? = some fields)
  | response {responses : List (String × Option Body)} {status : String} {body : Body}
      (given : operation.responses = some responses) (member : (status, some body) ∈ responses)
      (schema : body.schema? = some fields)
  | parameter (location : Location)
      (effective : Effective
        (operation.parameters.filter fun parameter => parameter.location = location) fields)

/-- The fields are a schema of a contract that is copied into the tree. -/
def Document.Copies (contract : Document) (fields : Fields) : Prop :=
  ∃ route item method operation, (route, some item) ∈ contract.paths ∧
    (method, some operation) ∈ item.operations ∧ operation.Copies fields

/-- The fields are a schema of an operation that is read while the tree is built. That of a
parameter is read even where a later parameter replaces it. -/
inductive Operation.Offers (operation : Operation) (fields : Fields) : Prop where
  | request {body : Body} (requestBody : operation.requestBody = some body)
      (schema : body.schema? = some fields)
  | response {responses : List (String × Option Body)} {status : String} {body : Body}
      (given : operation.responses = some responses) (member : (status, some body) ∈ responses)
      (schema : body.schema? = some fields)
  | parameter {parameter : Parameter} (member : parameter ∈ operation.parameters)
      (schema : parameter.schema? = some fields)

/-- The fields are a schema of a contract that is read while the tree is built. -/
def Document.Offers (contract : Document) (fields : Fields) : Prop :=
  ∃ route item method operation, (route, some item) ∈ contract.paths ∧
    (method, some operation) ∈ item.operations ∧ operation.Offers fields

theorem exists_of_effective {parameters : List Parameter} {fields : Fields}
    (effective : Effective parameters fields) :
    ∃ parameter ∈ parameters, parameter.schema? = some fields := by
  induction effective with
  | here schema => exact ⟨_, List.mem_cons_self, schema⟩
  | later _ ih =>
      obtain ⟨parameter, member, schema⟩ := ih
      exact ⟨parameter, List.mem_cons_of_mem _ member, schema⟩

theorem Operation.Copies.offers {operation : Operation} {fields : Fields}
    (copies : operation.Copies fields) : operation.Offers fields := by
  cases copies with
  | request given schema => exact .request given schema
  | response given member schema => exact .response given member schema
  | parameter location effective =>
      obtain ⟨parameter, member, schema⟩ := exists_of_effective effective
      exact .parameter (List.mem_filter.1 member).1 schema

end Contract

namespace Schema

/-- A fragment stands in the tree that a level gives, if it gives any. -/
def HoldsIn (result : Option Schema) (fields : Fields) : Prop :=
  ∃ schema, result = some schema ∧ schema.Holds fields

variable {fields : Fields} {summary fallback route : String}

@[simp] theorem holdsIn_none : ¬HoldsIn none fields := by
  intro given
  rcases given with ⟨schema, impossible, _⟩
  cases impossible

@[simp] theorem holdsIn_some {schema : Schema} :
    HoldsIn (some schema) fields ↔ schema.Holds fields := by
  constructor
  · intro given
    rcases given with ⟨_, ⟨⟩, holds⟩
    exact holds
  · exact fun holds => ⟨schema, rfl, holds⟩

/-! ## One level of the tree -/

theorem mem_children {κ α : Type} {name : κ → String}
    {schemaOf : κ → α → Checked (Option Schema)} {items : List (κ × α)}
    {results : List (String × Schema)} (success : children name schemaOf items = .ok results)
    {entry : String × Schema} :
    entry ∈ results ↔ ∃ item ∈ items, ∃ schema, schemaOf item.1 item.2 = .ok (some schema) ∧
      entry = (name item.1, schema) := by
  induction items generalizing results with
  | nil =>
      cases success
      simp
  | cons item rest ih =>
      simp only [children, Checked.bind_eq_ok, Checked.pure_eq_ok] at success
      obtain ⟨first, built, others, success, rfl⟩ := success
      cases first with
      | none => simp [ih success, built]
      | some schema => simp [ih success, built]

/-- What holds of the fragments of the children holds of those of the object. -/
theorem holds_children {κ α : Type} {name : κ → String}
    {schemaOf : κ → α → Checked (Option Schema)} {items : List (κ × α)}
    {results : List (String × Schema)} (success : children name schemaOf items = .ok results) :
    (∃ property ∈ results, property.2.Holds fields) ↔
      ∃ item ∈ items, ∃ result, schemaOf item.1 item.2 = .ok result ∧ HoldsIn result fields := by
  simp only [mem_children success]
  constructor
  · intro given
    rcases given with ⟨_, ⟨item, member, schema, built, rfl⟩, holds⟩
    exact ⟨item, member, some schema, built, schema, rfl, holds⟩
  · intro given
    rcases given with ⟨item, member, _, built, schema, rfl, holds⟩
    exact ⟨(name item.1, schema), ⟨item, member, schema, built, rfl⟩, holds⟩

/-- Building the children of an object succeeds only where all items can be built. -/
theorem built_of_children {κ α : Type} {name : κ → String}
    {schemaOf : κ → α → Checked (Option Schema)} {items : List (κ × α)}
    {results : List (String × Schema)} (success : children name schemaOf items = .ok results)
    {item : κ × α} (member : item ∈ items) : ∃ result, schemaOf item.1 item.2 = .ok result := by
  induction items generalizing results with
  | nil => cases member
  | cons first rest ih =>
      simp only [children, Checked.bind_eq_ok, Checked.pure_eq_ok] at success
      obtain ⟨result, built, others, success, _⟩ := success
      rcases List.mem_cons.1 member with rfl | member
      · exact ⟨result, built⟩
      · exact ih success member

@[simp] theorem holds_closed {description : Option String} {properties : List (String × Schema)} :
    (closed description properties).Holds fields ↔
      ∃ property ∈ properties, property.2.Holds fields :=
  holds_object

theorem holds_present {results : List (String × Option Schema)} :
    (∃ property ∈ present results, property.2.Holds fields) ↔
      ∃ result ∈ results, HoldsIn result.2 fields := by
  simp only [present, List.mem_filterMap, Option.map_eq_some_iff]
  constructor
  · intro given
    rcases given with ⟨_, ⟨result, member, schema, found, rfl⟩, holds⟩
    exact ⟨result, member, schema, found, holds⟩
  · intro given
    rcases given with ⟨result, member, schema, found, holds⟩
    exact ⟨(result.1, schema), ⟨result, member, schema, found, rfl⟩, holds⟩

/-! ## Fragments -/

/-- What stands under the name of the description is a scalar. -/
def Described (fields : Fields) : Prop :=
  ∀ value, Fields.get? fields "description" = some value → ∃ scalar, value = .scalar scalar

theorem scalar_of_descriptionOf {value : Value} {description : Option String}
    (success : descriptionOf (some value) = .ok description) :
    ∃ scalar, value = .scalar scalar := by
  rw [descriptionOf, Checked.within_eq_ok] at success
  cases value with
  | scalar value => exact ⟨value, rfl⟩
  | list | tuple | set | mapping => cases success

theorem fragmentOf_eq_ok {description : Option Value} {schema : Schema}
    (success : fragmentOf fields description = .ok schema) :
    (∃ text, schema = .fragment fields text) ∧
      ∀ value, description = some value → ∃ scalar, value = .scalar scalar := by
  simp only [fragmentOf, Checked.bind_eq_ok, Checked.pure_eq_ok] at success
  obtain ⟨text, success, rfl⟩ := success
  refine ⟨⟨text, rfl⟩, ?_⟩
  intro value equal
  subst equal
  exact scalar_of_descriptionOf success

theorem ofBody_eq_ok (fields : Fields) {body : Option Contract.Body} {result : Option Schema}
    (success : ofBody fallback body = .ok result) :
    (HoldsIn result fields ↔ ∃ given, body = some given ∧ given.schema? = some fields) ∧
      (HoldsIn result fields → Described fields) := by
  unfold ofBody at success
  split at success
  next =>
    cases success
    simp
  next given =>
    split at success
    next none =>
      cases success
      simp [none]
    next own found =>
      simp only [Functor.map, Checked.map_eq_ok] at success
      obtain ⟨schema, built, rfl⟩ := success
      obtain ⟨⟨text, rfl⟩, scalar⟩ := fragmentOf_eq_ok built
      refine ⟨by simp [found, eq_comm], ?_⟩
      rw [holdsIn_some, holds_fragment]
      intro equal value present
      subst equal
      rw [present] at scalar
      cases absent : value.isNull with
      | true =>
          unfold isNull at absent
          split at absent
          next => exact ⟨_, rfl⟩
          next => cases absent
      | false => exact scalar value (by simp [present?, Option.filter, absent])

/-! ## Parameters -/

/-- The properties of a group hold the schemas that are effective and what there was before under
names that no parameter with a schema has. -/
theorem parameterProperties_eq_ok (fields : Fields) {parameters : List Contract.Parameter}
    {before results : List (String × Schema)} (distinct : (before.map Prod.fst).Nodup)
    (success : parameterProperties before parameters = .ok results) :
    (∃ property ∈ results, property.2.Holds fields) ↔
      Contract.Effective parameters fields ∨ ∃ property ∈ before, property.2.Holds fields ∧
        ∀ parameter ∈ parameters, parameter.name = property.1 → parameter.schema? = none := by
  induction parameters generalizing before with
  | nil =>
      cases success
      have nothing : ¬Contract.Effective [] fields := nofun
      simp [nothing]
  | cons parameter rest ih =>
      cases own : parameter.schema? with
      | none =>
          rw [parameterProperties, own] at success
          have skipped : Contract.Effective (parameter :: rest) fields ↔
              Contract.Effective rest fields := by
            constructor
            · intro given
              rcases given with ⟨schema, _⟩ | ⟨effective⟩
              · cases own.symm.trans schema
              · exact effective
            · exact .later
          simp [ih distinct success, skipped, own]
      | some schemaFields =>
          simp only [parameterProperties, own, Checked.bind_eq_ok] at success
          obtain ⟨schema, built, success⟩ := success
          obtain ⟨⟨text, rfl⟩, _⟩ := fragmentOf_eq_ok built
          rw [ih (Fields.nodup_put distinct _) success]
          simp only [Fields.mem_put distinct]
          constructor
          · intro given
            rcases given with effective | ⟨property, rfl | ⟨different, member⟩, holds, free⟩
            · exact .inl (.later effective)
            · rw [holds_fragment] at holds
              exact .inl (.here (holds ▸ own) free)
            · refine .inr ⟨property, member, holds, ?_⟩
              intro other inside same
              rcases List.mem_cons.1 inside with rfl | inside
              · exact absurd same.symm different
              · exact free other inside same
          · intro given
            rcases given with (⟨schema, last⟩ | ⟨effective⟩) | ⟨property, member, holds, free⟩
            · cases own.symm.trans schema
              exact .inr ⟨(parameter.name, .fragment fields text), .inl rfl, .fragment _ _, last⟩
            · exact .inl effective
            · refine .inr ⟨property, .inr ⟨?_, member⟩, holds, ?_⟩
              · intro same
                cases own.symm.trans (free parameter List.mem_cons_self same.symm)
              · exact fun other inside => free other (List.mem_cons_of_mem _ inside)

theorem described_of_parameterProperties {parameters : List Contract.Parameter}
    {before results : List (String × Schema)}
    (old : ∀ property ∈ before, ∀ fields, property.2.Holds fields → Described fields)
    (success : parameterProperties before parameters = .ok results) :
    ∀ property ∈ results, ∀ fields, property.2.Holds fields → Described fields := by
  induction parameters generalizing before with
  | nil =>
      cases success
      exact old
  | cons parameter rest ih =>
      cases own : parameter.schema? with
      | none =>
          rw [parameterProperties, own] at success
          exact ih old success
      | some schemaFields =>
          simp only [parameterProperties, own, Checked.bind_eq_ok] at success
          obtain ⟨schema, built, success⟩ := success
          obtain ⟨⟨text, rfl⟩, scalar⟩ := fragmentOf_eq_ok built
          refine ih ?_ success
          intro property member
          rcases Fields.mem_of_mem_put member with rfl | member
          · intro fields holds
            rw [holds_fragment] at holds
            subst holds
            exact scalar
          · exact old property member

theorem ofGroup_eq_ok (fields : Fields) {parameters : List Contract.Parameter} {group : Group}
    {result : Option Schema} (success : ofGroup summary parameters group = .ok result) :
    (HoldsIn result fields ↔ Contract.Effective
        (parameters.filter fun parameter => parameter.location = group.location) fields) ∧
      (HoldsIn result fields → Described fields) := by
  unfold ofGroup at success
  dsimp only at success
  split at success
  next empty =>
    cases success
    rw [List.isEmpty_iff.1 empty]
    have nothing : ¬Contract.Effective [] fields := nofun
    simp [nothing]
  next =>
    rw [Checked.bind_eq_ok] at success
    obtain ⟨properties, built, success⟩ := success
    cases success
    have holds := parameterProperties_eq_ok fields (by simp) built
    have described := described_of_parameterProperties (by simp) built
    refine ⟨by simp [holds], ?_⟩
    rw [holdsIn_some, holds_object]
    intro given
    rcases given with ⟨property, member, inside⟩
    exact described property member fields inside

theorem ofGroups_eq_ok (fields : Fields) {parameters : List Contract.Parameter}
    {groups : List Group} {results : List (String × Option Schema)}
    (success : ofGroups summary parameters groups = .ok results) :
    ((∃ result ∈ results, HoldsIn result.2 fields) ↔ ∃ group ∈ groups, Contract.Effective
        (parameters.filter fun parameter => parameter.location = group.location) fields) ∧
      ∀ result ∈ results, HoldsIn result.2 fields → Described fields := by
  induction groups generalizing results with
  | nil =>
      cases success
      simp
  | cons group rest ih =>
      simp only [ofGroups, Checked.bind_eq_ok, Checked.pure_eq_ok] at success
      obtain ⟨first, built, others, success, rfl⟩ := success
      obtain ⟨holds, described⟩ := ofGroup_eq_ok fields built
      obtain ⟨otherHolds, otherDescribed⟩ := ih success
      refine ⟨by simp [holds, ← otherHolds], ?_⟩
      intro result member
      rcases List.mem_cons.1 member with rfl | member
      · exact described
      · exact otherDescribed result member

theorem exists_group (location : Contract.Location) :
    ∃ group ∈ groups, group.location = location := by
  cases location <;> simp [groups]

/-! ## Operations, routes and contracts -/

theorem ofResponses_eq_ok (fields : Fields)
    {responses : Option (List (String × Option Contract.Body))} {result : Option Schema}
    (success : ofResponses summary responses = .ok result) :
    (HoldsIn result fields ↔ ∃ given status body, responses = some given ∧
        (status, some body) ∈ given ∧ body.schema? = some fields) ∧
      (HoldsIn result fields → Described fields) := by
  cases responses with
  | none =>
      cases success
      simp
  | some given =>
      rw [ofResponses, Checked.bind_eq_ok] at success
      obtain ⟨properties, built, success⟩ := success
      cases success
      rw [holdsIn_some, holds_closed, holds_children built]
      constructor
      · constructor
        · intro given
          rcases given with ⟨⟨status, body⟩, member, result, bodyBuilt, holds⟩
          obtain ⟨found, rfl, schema⟩ := (ofBody_eq_ok fields bodyBuilt).1.1 holds
          exact ⟨given, status, found, rfl, member, schema⟩
        · intro given
          rcases given with ⟨_, status, body, ⟨⟩, member, schema⟩
          obtain ⟨result, bodyBuilt⟩ := built_of_children built member
          exact ⟨_, member, result, bodyBuilt,
            (ofBody_eq_ok fields bodyBuilt).1.2 ⟨body, rfl, schema⟩⟩
      · intro given
        rcases given with ⟨_, _, result, bodyBuilt, holds⟩
        exact (ofBody_eq_ok fields bodyBuilt).2 holds

theorem ofOperation_eq_ok (fields : Fields) {method : Contract.Method}
    {operation : Option Contract.Operation} {result : Option Schema}
    (success : ofOperation route method operation = .ok result) :
    (HoldsIn result fields ↔ ∃ given, operation = some given ∧ given.Copies fields) ∧
      (HoldsIn result fields → Described fields) := by
  cases operation with
  | none =>
      cases success
      simp
  | some given =>
      simp only [ofOperation, Checked.bind_eq_ok] at success
      obtain ⟨body, bodyBuilt, groupResults, groupsBuilt, responses, responsesBuilt, success⟩ :=
        success
      cases success
      obtain ⟨ofBody, bodyDescribed⟩ := ofBody_eq_ok fields bodyBuilt
      obtain ⟨ofGroups, groupsDescribed⟩ := ofGroups_eq_ok fields groupsBuilt
      obtain ⟨ofResponses, responsesDescribed⟩ := ofResponses_eq_ok fields responsesBuilt
      have parts : HoldsIn (some (closed (some (operationDescription (summaryOf method route)
          given.description)) (present (("requestBody", body) :: groupResults ++
            [("responses", responses)])))) fields ↔
          HoldsIn body fields ∨ (∃ result ∈ groupResults, HoldsIn result.2 fields) ∨
            HoldsIn responses fields := by
        rw [holdsIn_some, holds_closed, holds_present]
        simp [or_and_right, exists_or]
      rw [parts]
      constructor
      · rw [ofBody, ofGroups, ofResponses]
        constructor
        · rintro (⟨given, request, schema⟩ | ⟨group, _, effective⟩ |
            ⟨responses, status, body, present, member, schema⟩)
          · exact ⟨_, rfl, .request request schema⟩
          · exact ⟨_, rfl, .parameter group.location effective⟩
          · exact ⟨_, rfl, .response present member schema⟩
        · intro given
          rcases given with ⟨_, ⟨⟩, copies⟩
          cases copies with
          | request request schema => exact .inl ⟨_, request, schema⟩
          | response present member schema =>
              exact .inr (.inr ⟨_, _, _, present, member, schema⟩)
          | parameter location effective =>
              obtain ⟨group, member, rfl⟩ := exists_group location
              exact .inr (.inl ⟨group, member, effective⟩)
      · intro given
        rcases given with holds | ⟨result, member, holds⟩ | holds
        · exact bodyDescribed holds
        · exact groupsDescribed result member holds
        · exact responsesDescribed holds

theorem ofPathItem_eq_ok (fields : Fields) {item : Option Contract.PathItem}
    {result : Option Schema} (success : ofPathItem route item = .ok result) :
    (HoldsIn result fields ↔ ∃ given method operation, item = some given ∧
        (method, some operation) ∈ given.operations ∧ operation.Copies fields) ∧
      (HoldsIn result fields → Described fields) := by
  cases item with
  | none =>
      cases success
      simp
  | some given =>
      unfold ofPathItem at success
      dsimp only at success
      split at success
      next empty =>
        cases success
        simp [List.isEmpty_iff.1 empty]
      next =>
        rw [Checked.bind_eq_ok] at success
        obtain ⟨properties, built, success⟩ := success
        cases success
        rw [holdsIn_some, holds_closed, holds_children built]
        constructor
        · constructor
          · intro given
            rcases given with ⟨⟨method, operation⟩, member, result, operationBuilt, holds⟩
            obtain ⟨found, rfl, copies⟩ := (ofOperation_eq_ok fields operationBuilt).1.1 holds
            exact ⟨given, method, found, rfl, member, copies⟩
          · intro given
            rcases given with ⟨_, method, operation, ⟨⟩, member, copies⟩
            obtain ⟨result, operationBuilt⟩ := built_of_children built member
            exact ⟨_, member, result, operationBuilt,
              (ofOperation_eq_ok fields operationBuilt).1.2 ⟨operation, rfl, copies⟩⟩
        · intro given
          rcases given with ⟨_, _, result, operationBuilt, holds⟩
          exact (ofOperation_eq_ok fields operationBuilt).2 holds

/-- The fragments of the tree of a contract are the schemas that are copied. -/
theorem holds_ofDocument (fields : Fields) {contract : Contract.Document} {schema : Schema}
    (success : ofDocument contract = .ok schema) :
    (schema.Holds fields ↔ contract.Copies fields) ∧ (schema.Holds fields → Described fields) := by
  rw [ofDocument, Checked.bind_eq_ok] at success
  obtain ⟨properties, built, success⟩ := success
  cases success
  rw [holds_closed, holds_children built]
  constructor
  · constructor
    · intro given
      rcases given with ⟨⟨route, item⟩, member, result, itemBuilt, holds⟩
      obtain ⟨given, method, operation, rfl, inside, copies⟩ :=
        (ofPathItem_eq_ok fields itemBuilt).1.1 holds
      exact ⟨route, given, method, operation, member, inside, copies⟩
    · intro given
      rcases given with ⟨route, item, method, operation, member, inside, copies⟩
      obtain ⟨result, itemBuilt⟩ := built_of_children built member
      exact ⟨_, member, result, itemBuilt,
        (ofPathItem_eq_ok fields itemBuilt).1.2 ⟨item, method, operation, rfl, inside, copies⟩⟩
  · intro given
    rcases given with ⟨_, _, result, itemBuilt, holds⟩
    exact (ofPathItem_eq_ok fields itemBuilt).2 holds

end Schema

end RouteTypes
