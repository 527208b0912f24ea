import RouteTypes.Contract.Dump
import RouteTypes.Proofs.Check.Restoring
import RouteTypes.Proofs.Contract.Methods
import RouteTypes.Proofs.Contract.Provenance
import RouteTypes.Proofs.Value.Equality
import RouteTypes.Schema

/-!
# Contracts that are written and checked again

A contract that is written as a value is accepted when it is checked, and becomes the same contract
(`checkDocument_toValue`). There is one lemma for each kind of record: its declared fields are
written under their first names, and its extras never have one of these.
-/

namespace RouteTypes.Contract

open Check

/-! ## Fields -/

theorem restores_text : Restores text .text := fun _ _ _ => rfl

theorem restores_truth : Restores truth .bool := fun _ _ _ => rfl

theorem restores_location : Restores checkLocation fun location => .text location.name := by
  intro _ location _
  cases location <;> rfl

theorem restores_optionalText : Restores (optional text) textValue :=
  restores_optional rfl (fun _ => rfl) restores_text

theorem restores_optionalFields : Restores (optional anyFields) fieldsValue :=
  restores_optional rfl (fun _ => rfl) restores_anyFields

/-- What is written of a record that may be absent. -/
theorem restores_valueOr {α : Type} {check : Value → Checked α} {toValue : α → Value}
    (present : ∀ result, (toValue result).isNull = false) (restores : Restores check toValue) :
    Restores (optional check) (valueOr toValue) :=
  restores_optional rfl present restores

/-! ## Records -/

theorem restores_mediaType : Restores checkMediaType MediaType.toValue := by
  intro value media success
  simp only [checkMediaType, Checked.bind_eq_ok, Checked.both_eq_ok] at success ⊢
  obtain ⟨entries, _, ⟨schema, extras⟩, ⟨schemaChecked, extrasChecked⟩, ⟨⟩⟩ := success
  refine ⟨written [("schema", fieldsValue schema)] extras, rfl, ⟨schema, extras⟩, ⟨?_, ?_⟩, rfl⟩
  · exact fieldOr_written restores_optionalFields rfl schemaChecked rfl
  · exact extras_written extrasChecked rfl (by simp)

theorem restores_content : Restores (optional checkContent) (valueOr contentValue) :=
  restores_valueOr (fun _ => rfl)
    (restores_fields (restores_valueOr (fun _ => rfl) restores_mediaType))

theorem restores_body : Restores checkBody Body.toValue := by
  intro value body success
  simp only [checkBody, Checked.bind_eq_ok, Checked.both_eq_ok] at success ⊢
  obtain ⟨entries, _, ⟨description, content, extras⟩,
    ⟨descriptionChecked, contentChecked, extrasChecked⟩, ⟨⟩⟩ := success
  refine ⟨written
    [("description", textValue description), ("content", valueOr contentValue content)] extras, rfl,
    ⟨description, content, extras⟩, ⟨?_, ?_, ?_⟩, rfl⟩
  · exact fieldOr_written restores_optionalText rfl descriptionChecked rfl
  · exact fieldOr_written restores_content rfl contentChecked rfl
  · exact extras_written extrasChecked rfl (by simp)

theorem restores_parameter : Restores checkParameter Parameter.toValue := by
  intro value parameter success
  simp only [checkParameter, Checked.bind_eq_ok, Checked.both_eq_ok] at success ⊢
  obtain ⟨entries, _, ⟨name, location, required, description, schema, content, extras⟩,
    ⟨nameChecked, locationChecked, requiredChecked, descriptionChecked, schemaChecked,
      contentChecked, extrasChecked⟩, ⟨⟩⟩ := success
  refine ⟨written [("name", .text name), ("in", .text location.name), ("required", .bool required),
      ("description", textValue description), ("schema", fieldsValue schema),
      ("content", valueOr contentValue content)] extras, rfl,
    ⟨name, location, required, description, schema, content, extras⟩,
    ⟨?_, ?_, ?_, ?_, ?_, ?_, ?_⟩, rfl⟩
  · exact field_written restores_text nameChecked rfl
  · exact field_written restores_location locationChecked rfl
  · exact fieldOr_written restores_truth rfl requiredChecked rfl
  · exact fieldOr_written restores_optionalText rfl descriptionChecked rfl
  · exact fieldOr_written restores_optionalFields rfl schemaChecked rfl
  · exact fieldOr_written restores_content rfl contentChecked rfl
  · exact extras_written extrasChecked rfl (by simp)

/-- Status codes that are written are texts, so they stay as they are. -/
theorem withTextKeys_ofFields {fields : Fields} (distinct : (fields.map Prod.fst).Nodup) :
    withTextKeys (.ofFields fields) = .ofFields fields := by
  have same : (fields.map fun field => (Scalar.text field.1, field.2)).map
      (fun entry => (textKey entry.1, entry.2)) =
        fields.map fun field => (Scalar.text field.1, field.2) := by
    rw [List.map_map]
    rfl
  rw [Value.ofFields, withTextKeys, same,
    Entries.putAll_nil_of_textual (textual_ofFields.2 distinct)]

theorem restores_responses : Restores checkResponses (valueOr responsesValue) := by
  intro value responses success
  cases responses with
  | none => rfl
  | some responses =>
      have checked := optional_eq_ok (checkResponses_eq_ok success)
      have showable : hasShowableKeys (responsesValue responses) = true := by
        simp [responsesValue, Value.ofFields, hasShowableKeys, Scalar.isShowable]
      have textual : withTextKeys (responsesValue responses) = responsesValue responses := by
        obtain ⟨_, _, distinct, _⟩ := mapping_eq_ok checked
        refine withTextKeys_ofFields ?_
        rwa [List.map_map]
      have restored : optional (Check.fields (optional checkBody)) (responsesValue responses) =
          .ok (some responses) := by
        have given : responsesValue responses ≠ .null := by simp [responsesValue, Value.ofFields]
        have bodies : Restores (Check.fields (optional checkBody)) responsesValue :=
          restores_fields (restores_valueOr (fun _ => rfl) restores_body)
        rw [optional_of_ne_null given, bodies _ _ checked]
        rfl
      rw [valueOr, checkResponses, if_pos showable, textual, restored]

theorem restores_operation : Restores checkOperation Operation.toValue := by
  intro value operation success
  simp only [checkOperation, Checked.bind_eq_ok, Checked.both_eq_ok] at success ⊢
  obtain ⟨entries, _, ⟨description, parameters, requestBody, responses, extras⟩,
    ⟨descriptionChecked, parametersChecked, requestChecked, responsesChecked, extrasChecked⟩,
    ⟨⟩⟩ := success
  refine ⟨written [("description", textValue description),
      ("parameters", .list (parameters.map Parameter.toValue)),
      ("requestBody", valueOr Body.toValue requestBody),
      ("responses", valueOr responsesValue responses)] extras, rfl,
    ⟨description, parameters, requestBody, responses, extras⟩, ⟨?_, ?_, ?_, ?_, ?_⟩, rfl⟩
  · exact fieldOr_written restores_optionalText rfl descriptionChecked rfl
  · exact fieldOr_written (restores_list restores_parameter) rfl parametersChecked rfl
  · exact fieldOr_written (restores_valueOr (fun _ => rfl) restores_body) rfl requestChecked rfl
  · exact fieldOr_written restores_responses rfl responsesChecked rfl
  · exact extras_written extrasChecked rfl (by simp)

/-- The operations of a path item as they are written: a collection that takes the place of the one
that was made of its methods. -/
def operationsValue (operations : List (Method × Option Operation)) : Value :=
  .ofFields (operations.map fun entry => (entry.1.name, valueOr Operation.toValue entry.2))

theorem restores_operations :
    Restores (mapping (choice Method.names) (optional checkOperation)) operationsValue :=
  restores_mapping (fun _ => choice_method.2 rfl)
    (restores_valueOr (fun _ => rfl) restores_operation)

theorem restores_pathItem : Restores checkPathItem PathItem.toValue := by
  intro value item success
  simp only [checkPathItem, Checked.bind_eq_ok, Checked.both_eq_ok, Functor.map,
    Checked.map_eq_ok] at success ⊢
  obtain ⟨entries, _, ⟨operations, extras⟩, ⟨operationsChecked, extrasChecked⟩, ⟨⟩⟩ := success
  let front : Fields := [("operations", operationsValue operations)]
  have kept : collectOperations (written front extras) = written front extras := rfl
  refine ⟨written front extras, ⟨written front extras, rfl, kept⟩, ⟨operations, extras⟩,
    ⟨?_, ?_⟩, rfl⟩
  · exact fieldOr_written restores_operations rfl operationsChecked rfl
  · exact extras_written extrasChecked rfl (by simp)

theorem restores_info : Restores checkInfo Info.toValue := by
  intro value info success
  simp only [checkInfo, Checked.bind_eq_ok, Checked.both_eq_ok] at success ⊢
  obtain ⟨entries, _, ⟨title, version, description, extras⟩,
    ⟨titleChecked, versionChecked, descriptionChecked, extrasChecked⟩, ⟨⟩⟩ := success
  refine ⟨written [("title", .text title), ("version", .text version),
      ("description", textValue description)] extras, rfl,
    ⟨title, version, description, extras⟩, ⟨?_, ?_, ?_, ?_⟩, rfl⟩
  · exact fieldOr_written restores_text rfl titleChecked rfl
  · exact fieldOr_written restores_text rfl versionChecked rfl
  · exact fieldOr_written restores_optionalText rfl descriptionChecked rfl
  · exact extras_written extrasChecked rfl (by simp)

/-! ## Contracts -/

/-- A contract that was made of a document is written as a document that is accepted and becomes the
same contract: with the same fields, the same operations and status codes in their order and the
same extras everywhere. So the same schema is built of it. -/
theorem checkDocument_toValue {value : Value} {contract : Document}
    (accepted : checkDocument value = .ok contract) :
    checkDocument contract.toValue = .ok contract ∧
      (checkDocument contract.toValue).map Schema.ofDocument =
        .ok (Schema.ofDocument contract) := by
  have restored : checkDocument contract.toValue = .ok contract := by
    simp only [checkDocument, Checked.bind_eq_ok, Checked.both_eq_ok] at accepted ⊢
    obtain ⟨entries, _, ⟨openapi, info, paths, components, extras⟩,
      ⟨openapiChecked, infoChecked, pathsChecked, componentsChecked, extrasChecked⟩,
      ⟨⟩⟩ := accepted
    refine ⟨written [("openapi", .text openapi), ("info", info.toValue),
        ("paths", .ofFields (paths.map fun entry => (entry.1, valueOr PathItem.toValue entry.2))),
        ("components", fieldsValue components)] extras, rfl,
      ⟨openapi, info, paths, components, extras⟩, ⟨?_, ?_, ?_, ?_, ?_⟩, rfl⟩
    · exact field_written restores_text openapiChecked rfl
    · exact fieldOr_written restores_info rfl infoChecked rfl
    · exact fieldOr_written (restores_fields (restores_valueOr (fun _ => rfl) restores_pathItem))
        rfl pathsChecked rfl
    · exact fieldOr_written restores_optionalFields rfl componentsChecked rfl
    · exact extras_written extrasChecked rfl (by simp)
  refine ⟨restored, ?_⟩
  rw [restored]
  rfl

/-- A document with a status code that is a truth value, a flag that is a word, a field under its
second name and an extra that has the second name of another field. -/
def lenient : Value :=
  .mapping [(.text "openapi", .text "3.0.0"), (.text "paths", .mapping [(.text "/n", .mapping
    [(.text "get", .mapping
      [(.text "parameters", .list [.mapping
        [(.text "name", .text "id"), (.text "location", .text "query"),
         (.text "required", .text "yes"), (.text "schema", .mapping []),
         (.text "schema_", .text "later")]]),
       (.text "responses", .mapping [(.bool true, .mapping [])])])])])]

/-- The contract of `lenient`. -/
def lenientContract : Document where
  openapi := "3.0.0"
  info := Info.default
  paths := [("/n", some
    { operations := [(.get, some
        { description := none
          parameters :=
            [⟨"id", .query, true, none, some [], none, [("schema_", .text "later")]⟩]
          requestBody := none
          responses := some [("True", some ⟨none, none, []⟩)]
          extras := [] })]
      extras := [] })]
  components := none
  extras := []

/-- What is written of a contract is not the document that it was made of, but becomes the same
contract. -/
theorem checkDocument_toValue_lenient :
    checkDocument lenient = .ok lenientContract ∧ lenientContract.toValue ≠ lenient ∧
      checkDocument lenientContract.toValue = .ok lenientContract := by
  have accepted : checkDocument lenient = .ok lenientContract := by cbv
  have added : lenientContract.toValue ≠ lenient := by decide +kernel
  exact ⟨accepted, added, (checkDocument_toValue accepted).1⟩

end RouteTypes.Contract
