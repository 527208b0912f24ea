import RouteTypes.Contract.Validation
import RouteTypes.Proofs.Check.Success
import RouteTypes.Proofs.Schema.Construction
import RouteTypes.Proofs.Value.Entries

/-!
# Where the schemas of a contract come from

Every schema of a contract that is read while the tree of schemas is built is a mapping that stands
in the document of the contract (`taken_of_offers`), those that are copied into the tree among them
(`taken_of_copies`). There is one lemma for each check.
-/

namespace RouteTypes.Contract

open Check Value

/-- The fields are those of a mapping that stands in a value. -/
def Taken (fields : Fields) (value : Value) : Prop :=
  ∃ part, DeepPart part value ∧ anyFields part = .ok fields

variable {fields : Fields} {value : Value}

theorem Taken.inside {part : Value} (taken : Taken fields part) (inside : DeepPart part value) :
    Taken fields value := by
  obtain ⟨inner, low, accepted⟩ := taken
  exact ⟨inner, low.trans inside, accepted⟩

theorem deepPart_of_mem {entries : Entries} {entry : Scalar × Value} (member : entry ∈ entries) :
    DeepPart entry.2 (.mapping entries) :=
  .entry member (.whole _)

theorem deepPart_of_get? {entries : Entries} {name : String}
    (found : Entries.get? entries (.text name) = some value) :
    DeepPart value (.mapping entries) :=
  deepPart_of_mem (Entries.mem_of_get? found)

/-- A declared field that is there comes from a part of the record. -/
theorem part_of_fieldOr {α : Type} {check : Value → Checked α} {entries : Entries}
    {names : List String} {result : α}
    (success : fieldOr none entries names (optional check) = .ok (some result)) :
    ∃ part, DeepPart part (.mapping entries) ∧ check part = .ok result := by
  rcases fieldOr_eq_ok success with impossible | ⟨_, _, part, found, accepted⟩
  · cases impossible
  · exact ⟨part, deepPart_of_get? found, optional_eq_ok accepted⟩

/-- An entry of a mapping from texts comes from a part of the mapping. -/
theorem part_of_fields {α : Type} {check : Value → Checked α} {results : List (String × Option α)}
    (success : Check.fields (optional check) value = .ok results) {name : String} {result : α}
    (member : (name, some result) ∈ results) :
    ∃ part, DeepPart part value ∧ check part = .ok result := by
  obtain ⟨entries, rfl, _, stems⟩ := mapping_eq_ok success
  obtain ⟨entry, inside, _, accepted⟩ := stems _ member
  exact ⟨entry.2, deepPart_of_mem inside, optional_eq_ok accepted⟩

theorem taken_of_mediaType {media : MediaType} (success : checkMediaType value = .ok media)
    (schema : media.schema = some fields) : Taken fields value := by
  simp only [checkMediaType, Checked.bind_eq_ok] at success
  obtain ⟨entries, accepted, ⟨own, extras⟩, both, success⟩ := success
  cases success
  rw [Checked.both_eq_ok] at both
  cases record_eq_ok accepted
  dsimp only at schema both
  subst schema
  exact part_of_fieldOr both.1

theorem taken_of_content {content : List (String × Option MediaType)}
    (success : checkContent value = .ok content)
    (schema : contentSchema? (some content) = some fields) : Taken fields value := by
  unfold contentSchema? at schema
  dsimp only at schema
  split at schema
  next media found =>
    obtain ⟨part, inside, accepted⟩ := part_of_fields success (Fields.mem_of_get? found)
    exact (taken_of_mediaType accepted schema).inside inside
  next => cases schema

/-- The content of a record, where it has a schema, comes from a part of the record. -/
theorem taken_of_contentField {entries : Entries} {names : List String}
    {content : Option (List (String × Option MediaType))}
    (success : fieldOr none entries names (optional checkContent) = .ok content)
    (schema : contentSchema? content = some fields) : Taken fields (.mapping entries) := by
  cases content with
  | none => cases schema
  | some content =>
      obtain ⟨part, inside, accepted⟩ := part_of_fieldOr success
      exact (taken_of_content accepted schema).inside inside

theorem taken_of_body {body : Body} (success : checkBody value = .ok body)
    (schema : body.schema? = some fields) : Taken fields value := by
  simp only [checkBody, Checked.bind_eq_ok] at success
  obtain ⟨entries, accepted, ⟨description, content, extras⟩, both, success⟩ := success
  cases success
  simp only [Checked.both_eq_ok] at both
  cases record_eq_ok accepted
  exact taken_of_contentField both.2.1 schema

theorem taken_of_parameter {parameter : Parameter}
    (success : checkParameter value = .ok parameter) (schema : parameter.schema? = some fields) :
    Taken fields value := by
  simp only [checkParameter, Checked.bind_eq_ok] at success
  obtain ⟨entries, accepted, ⟨name, location, required, description, own, content, extras⟩, both,
    success⟩ := success
  cases success
  simp only [Checked.both_eq_ok] at both
  cases record_eq_ok accepted
  simp only [Parameter.schema?, Option.or_eq_some_iff] at schema
  rcases schema with rfl | ⟨rfl, schema⟩
  · exact part_of_fieldOr both.2.2.2.2.1
  · exact taken_of_contentField both.2.2.2.2.2.1 schema

/-- Turning the keys of responses into texts leaves their bodies alone. -/
theorem deepPart_withTextKeys {entries : Entries}
    (textual : withTextKeys value = .mapping entries) {entry : Scalar × Value}
    (member : entry ∈ entries) : DeepPart entry.2 value := by
  unfold withTextKeys at textual
  split at textual
  next given =>
    cases textual
    refine @Entries.forall_putAll _ [] _ (DeepPart · (.mapping given)) nofun ?_ entry member
    intro renamed inside
    obtain ⟨original, stands, rfl⟩ := List.mem_map.1 inside
    exact .entry stands (.whole _)
  next =>
    subst textual
    exact deepPart_of_mem member

/-- Responses that are accepted have keys that become texts. -/
theorem checkResponses_eq_ok {result : Option (List (String × Option Body))}
    (success : checkResponses value = .ok result) :
    optional (Check.fields (optional checkBody)) (withTextKeys value) = .ok result := by
  unfold checkResponses at success
  split at success
  next => exact success
  next => cases success

theorem taken_of_responses {responses : List (String × Option Body)}
    (success : checkResponses value = .ok (some responses)) {status : String} {body : Body}
    (member : (status, some body) ∈ responses) (schema : body.schema? = some fields) :
    Taken fields value := by
  obtain ⟨entries, textual, _, stems⟩ :=
    mapping_eq_ok (optional_eq_ok (checkResponses_eq_ok success))
  obtain ⟨entry, inside, _, accepted⟩ := stems _ member
  exact (taken_of_body (optional_eq_ok accepted) schema).inside
    (deepPart_withTextKeys textual inside)

theorem taken_of_operation {operation : Operation}
    (success : checkOperation value = .ok operation) (offers : operation.Offers fields) :
    Taken fields value := by
  simp only [checkOperation, Checked.bind_eq_ok] at success
  obtain ⟨entries, accepted, ⟨description, parameters, request, responses, extras⟩, both,
    success⟩ := success
  cases success
  simp only [Checked.both_eq_ok] at both
  obtain ⟨-, parametersChecked, requestChecked, responsesChecked, -⟩ := both
  cases record_eq_ok accepted
  cases offers with
  | request given schema =>
      dsimp only at given
      subst given
      obtain ⟨part, inside, accepted⟩ := part_of_fieldOr requestChecked
      exact (taken_of_body accepted schema).inside inside
  | response given member schema =>
      dsimp only at given
      subst given
      rcases fieldOr_eq_ok responsesChecked with impossible | ⟨_, _, part, found, accepted⟩
      · cases impossible
      · exact (taken_of_responses accepted member schema).inside (deepPart_of_get? found)
  | parameter member schema =>
      rcases fieldOr_eq_ok parametersChecked with rfl | ⟨_, _, part, found, accepted⟩
      · cases member
      · obtain ⟨item, itemAccepted, inside | ⟨scalar, rfl⟩⟩ := list_eq_ok accepted member
        · exact (taken_of_parameter itemAccepted schema).inside
            (inside.trans (deepPart_of_get? found))
        · cases itemAccepted

/-- Collecting the methods of a path item leaves their operations alone. -/
theorem deepPart_collectOperations {entries operations : Entries}
    (found : Entries.get? (collectOperations entries) (.text "operations") =
      some (.mapping operations)) {entry : Scalar × Value} (member : entry ∈ operations) :
    DeepPart entry.2 (.mapping entries) := by
  unfold collectOperations at found
  split at found
  next => exact (deepPart_of_mem member).trans (deepPart_of_get? found)
  next absent =>
    rcases List.mem_append.1 (Entries.mem_of_get? found) with old | new
    · exact (deepPart_of_mem member).trans (.entry (List.mem_filter.1 old).1 (.whole _))
    · rw [List.mem_singleton, Prod.mk.injEq, Value.mapping.injEq] at new
      rw [new.2] at member
      exact deepPart_of_mem (List.mem_filter.1 member).1

/-- The operations of a path item come from parts of it, and each method stands once. -/
theorem operations_of_pathItem {item : PathItem} (success : checkPathItem value = .ok item) :
    (item.operations.map Prod.fst).Nodup ∧
      ∀ method operation, (method, some operation) ∈ item.operations →
        ∃ part, DeepPart part value ∧ checkOperation part = .ok operation := by
  simp only [checkPathItem, Checked.bind_eq_ok, Functor.map, Checked.map_eq_ok] at success
  obtain ⟨_, ⟨entries, accepted, rfl⟩, ⟨operations, extras⟩, both, success⟩ := success
  cases success
  rw [Checked.both_eq_ok] at both
  cases record_eq_ok accepted
  dsimp only at both ⊢
  rcases fieldOr_eq_ok both.1 with rfl | ⟨name, named, part, found, checked⟩
  · simp
  · rw [List.mem_singleton] at named
    subst named
    obtain ⟨given, rfl, distinct, stems⟩ := mapping_eq_ok checked
    refine ⟨distinct, fun method operation member => ?_⟩
    obtain ⟨entry, inside, _, checked⟩ := stems _ member
    exact ⟨entry.2, deepPart_collectOperations found inside, optional_eq_ok checked⟩

/-- The path items of a contract come from parts of its document, and each route stands once. -/
theorem pathItems_of_document {contract : Document} (success : checkDocument value = .ok contract) :
    (contract.paths.map Prod.fst).Nodup ∧
      ∀ route item, (route, some item) ∈ contract.paths →
        ∃ part, DeepPart part value ∧ checkPathItem part = .ok item := by
  simp only [checkDocument, Checked.bind_eq_ok] at success
  obtain ⟨entries, accepted, ⟨openapi, info, paths, components, extras⟩, both, success⟩ := success
  cases success
  simp only [Checked.both_eq_ok] at both
  cases record_eq_ok accepted
  dsimp only at both ⊢
  rcases fieldOr_eq_ok both.2.2.1 with rfl | ⟨_, _, part, found, checked⟩
  · simp
  · obtain ⟨_, _, distinct, _⟩ := mapping_eq_ok checked
    refine ⟨distinct, fun route item member => ?_⟩
    obtain ⟨inner, inside, checked⟩ := part_of_fields checked member
    exact ⟨inner, inside.trans (deepPart_of_get? found), checked⟩

/-- The schemas that are read come from the document of the contract. -/
theorem taken_of_offers {contract : Document} (success : checkDocument value = .ok contract)
    (offers : contract.Offers fields) : Taken fields value := by
  obtain ⟨route, item, method, operation, stands, member, offers⟩ := offers
  obtain ⟨part, inside, itemChecked⟩ := (pathItems_of_document success).2 route item stands
  obtain ⟨inner, low, operationChecked⟩ :=
    (operations_of_pathItem itemChecked).2 method operation member
  exact (taken_of_operation operationChecked offers).inside (low.trans inside)

/-- The schemas that are copied come from the document of the contract. -/
theorem taken_of_copies {contract : Document} (success : checkDocument value = .ok contract)
    (copies : contract.Copies fields) : Taken fields value := by
  obtain ⟨route, item, method, operation, stands, member, copies⟩ := copies
  exact taken_of_offers success ⟨route, item, method, operation, stands, member, copies.offers⟩

end RouteTypes.Contract
