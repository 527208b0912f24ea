import Mathlib.Data.List.Nodup
import RouteTypes.Proofs.Contract.Distinct
import RouteTypes.Proofs.Schema.Levels

/-!
# Names in the tree

In the tree of a contract no object has two properties of one name (`unambiguous_ofDocument`), so
nothing is lost where its objects become mappings.
-/

namespace RouteTypes.Schema

open Contract

/-- No object of a tree has two properties of one name. -/
inductive Unambiguous : Schema → Prop where
  | fragment (fields : Fields) (description : Option String) :
      Unambiguous (.fragment fields description)
  | object {description : Option String} {properties : List (String × Schema)}
      {required : List String} {additional : Bool} (names : (properties.map Prod.fst).Nodup)
      (below : ∀ property ∈ properties, property.2.Unambiguous) :
      Unambiguous (.object description properties required additional)

variable {contract : Document} {fallback summary route : String} {schema tree : Schema}

/-! ## Children -/

section Children

variable {κ α : Type} {name : κ → String} {schemaOf : κ → α → Checked (Option Schema)}
variable {items : List (κ × α)} {results : List (String × Schema)}

/-- The children of an object are some of its items, in their order. -/
theorem sublist_children (success : children name schemaOf items = .ok results) :
    (results.map Prod.fst).Sublist ((items.map Prod.fst).map name) := by
  induction items generalizing results with
  | nil =>
      cases success
      exact .slnil
  | cons item rest ih =>
      simp only [children, Checked.bind_eq_ok, Checked.pure_eq_ok] at success
      obtain ⟨first, _, others, success, rfl⟩ := success
      cases first with
      | none => exact (ih success).cons _
      | some schema => exact (ih success).cons_cons _

theorem unambiguous_children (injective : name.Injective)
    (distinct : (items.map Prod.fst).Nodup) (success : children name schemaOf items = .ok results)
    (each : ∀ item ∈ items, ∀ schema, schemaOf item.1 item.2 = .ok (some schema) →
      schema.Unambiguous) (description : Option String) :
    (closed description results).Unambiguous := by
  refine .object ((List.Nodup.map injective distinct).sublist (sublist_children success)) ?_
  intro property member
  obtain ⟨item, inside, schema, made, rfl⟩ := (mem_children success).1 member
  exact each item inside schema made

end Children

/-! ## The levels of a contract -/

theorem unambiguous_ofBody {body : Option Body} (made : ofBody fallback body = .ok (some schema)) :
    schema.Unambiguous := by
  obtain ⟨_, fields, text, _, _, _, rfl⟩ := ofBody_eq_some.1 made
  exact .fragment fields (some text)

/-- A later parameter takes the place of an earlier one of the same name. -/
theorem unambiguous_parameterProperties {parameters : List Parameter}
    {before results : List (String × Schema)} (names : (before.map Prod.fst).Nodup)
    (below : ∀ property ∈ before, property.2.Unambiguous)
    (made : parameterProperties before parameters = .ok results) :
    (results.map Prod.fst).Nodup ∧ ∀ property ∈ results, property.2.Unambiguous := by
  induction parameters generalizing before with
  | nil =>
      cases made
      exact ⟨names, below⟩
  | cons parameter rest ih =>
      cases own : parameter.schema? with
      | none =>
          rw [parameterProperties, own] at made
          exact ih names below made
      | some fields =>
          simp only [parameterProperties, own, Checked.bind_eq_ok] at made
          obtain ⟨schema, built, made⟩ := made
          obtain ⟨⟨text, rfl⟩, _⟩ := fragmentOf_eq_ok built
          refine ih (Fields.nodup_put names _) ?_ made
          intro property member
          rcases Fields.mem_of_mem_put member with rfl | old
          · exact .fragment fields text
          · exact below property old

theorem unambiguous_ofGroup {parameters : List Parameter} {group : Group}
    (made : ofGroup summary parameters group = .ok (some schema)) : schema.Unambiguous := by
  rcases ofGroup_eq_ok_iff.1 made with ⟨_, ⟨⟩⟩ | ⟨_, properties, built, ⟨⟩⟩
  obtain ⟨names, below⟩ := unambiguous_parameterProperties (by simp) (by simp) built
  exact .object names below

theorem unambiguous_ofResponses {responses : Option (List (String × Option Body))}
    (distinct : ∀ given, responses = some given → (given.map Prod.fst).Nodup)
    (made : ofResponses summary responses = .ok (some schema)) : schema.Unambiguous := by
  obtain ⟨given, properties, isGiven, bodiesMade, rfl⟩ := ofResponses_eq_some.1 made
  refine unambiguous_children Function.injective_id (distinct given isGiven) bodiesMade ?_ _
  exact fun _ _ _ bodyMade => unambiguous_ofBody bodyMade

theorem unambiguous_ofOperation {method : Method} {operation : Option Operation}
    (distinct : ∀ given responses, operation = some given → given.responses = some responses →
      (responses.map Prod.fst).Nodup)
    (made : ofOperation route method operation = .ok (some schema)) : schema.Unambiguous := by
  obtain ⟨given, body, groupResults, responses, isGiven, bodyMade, groupsMade, responsesMade,
    rfl⟩ := ofOperation_eq_some.1 made
  refine unambiguous_children Function.injective_id (nodup_operationFields groupsMade)
    (children_ok _) ?_ _
  intro field member child same
  rcases List.mem_append.1 member with member | last
  · rcases List.mem_cons.1 member with first | member
    · subst first
      cases same
      exact unambiguous_ofBody bodyMade
    · obtain ⟨name, result⟩ := field
      cases same
      obtain ⟨_, _, _, groupMade⟩ := group_of_ofGroups groupsMade member
      exact unambiguous_ofGroup groupMade
  · rw [List.mem_singleton] at last
    subst last
    cases same
    exact unambiguous_ofResponses (fun _ => distinct given _ isGiven) responsesMade

theorem unambiguous_ofPathItem {item : Option PathItem}
    (methods : ∀ given, item = some given → (given.operations.map Prod.fst).Nodup)
    (statuses : ∀ given method operation responses, item = some given →
      (method, some operation) ∈ given.operations → operation.responses = some responses →
        (responses.map Prod.fst).Nodup)
    (made : ofPathItem route item = .ok (some schema)) : schema.Unambiguous := by
  obtain ⟨given, properties, isGiven, _, operationsMade, rfl⟩ := ofPathItem_eq_some.1 made
  refine unambiguous_children Method.name_injective (methods given isGiven) operationsMade ?_ _
  intro item member schema operationMade
  refine unambiguous_ofOperation ?_ operationMade
  intro found responses same
  exact statuses given item.1 found responses isGiven (same ▸ member)

/-- Where the names of a contract stand once, those of its tree do. -/
theorem unambiguous_ofDocument (distinct : contract.Distinct)
    (built : ofDocument contract = .ok tree) : tree.Unambiguous := by
  rw [ofDocument, Checked.bind_eq_ok] at built
  obtain ⟨properties, made, built⟩ := built
  cases built
  refine unambiguous_children Function.injective_id distinct.routes made ?_ _
  intro route member schema itemMade
  refine unambiguous_ofPathItem ?_ ?_ itemMade
  · exact fun given same => distinct.methods route.1 given (same ▸ member)
  · intro given method operation responses same
    exact distinct.statuses route.1 given method operation responses (same ▸ member)

end RouteTypes.Schema
