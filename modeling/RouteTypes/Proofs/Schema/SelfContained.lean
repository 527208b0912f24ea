import Mathlib
import RouteTypes.Proofs.Contract.Provenance
import RouteTypes.Proofs.Generator

/-!
# References in the schema of a contract

The schema of a contract may hold references that were left where the document starts over. They
are written for the document that they come from, yet whoever reads the schema looks for their
targets in the schema. There they are found only where the pointer leads through one of the
fields of the schema itself (`schema_selfContained_iff`), so a schema that refers to itself under
the components of its document is not found (`recursive_not_selfContained`).
-/

namespace RouteTypes

open Reference Value

/-- A reference stays in a document and selects something there. -/
def ResolvesIn (document : Value) (reference : String) : Prop :=
  (split reference).1 = "" ∧ ∃ value, Pointer.resolve document (split reference).2 = .ok value

/-- All references that stand in a document, at any depth, select something in it. -/
def SelfContained (document : Value) : Prop :=
  ∀ reference, DeepRefers document reference → ResolvesIn document reference

/-- The fields of the tree of a contract. -/
def rootFields : List String := ["type", "properties", "required", "additionalProperties"]

/-- The pointer of a reference is empty or leads through a field of the tree of a contract. -/
def Rooted (reference : String) : Prop :=
  ∃ segments, Pointer.segments? (Text.percentDecode (split reference).2).toList = some segments ∧
    ∀ first ∈ segments.head?, first ∈ rootFields

variable {fields schema : Fields} {contract : Contract.Document} {reference : String}

/-! ## Which references the schema holds -/

/-- A schema that is copied from a checked document has a description that refers to nothing. -/
theorem tidy_of_copies {flat : Value} (checked : Contract.checkDocument flat = .ok contract)
    {tree : Schema} (built : Schema.ofDocument contract = .ok tree) (holds : tree.Holds fields) :
    Schema.Tidy fields := by
  obtain ⟨copied, described⟩ := Schema.holds_ofDocument fields built
  obtain ⟨part, _, accepted⟩ := Contract.taken_of_copies checked (copied.1 holds)
  obtain ⟨_, _, distinct, _⟩ := Check.mapping_eq_ok accepted
  refine ⟨distinct, ?_⟩
  intro value found reference
  obtain ⟨scalar, rfl⟩ := described holds value found
  exact deepRefers_scalar scalar

/-- The schema of a contract is the JSON form of its tree. -/
@[simp] theorem schemaFields_eq_ok :
    Generator.schemaFields contract = .ok schema ↔
      ∃ tree, Schema.ofDocument contract = .ok tree ∧ tree.toFields = schema := by
  rw [Generator.schemaFields]
  cases Schema.ofDocument contract <;> simp [Except.mapError, Except.map]

/-- The references in the schema of a contract are those in the schemas that are copied. -/
theorem deepRefers_schema {flat : Value} (checked : Contract.checkDocument flat = .ok contract)
    (built : Generator.schemaFields contract = .ok schema) :
    DeepRefers (.ofFields schema) reference ↔
      ∃ fields, contract.Copies fields ∧ DeepRefers (.ofFields fields) reference := by
  obtain ⟨tree, made, rfl⟩ := schemaFields_eq_ok.1 built
  rw [Schema.deepRefers_toFields tree fun fields holds => tidy_of_copies checked made holds]
  refine exists_congr fun fields => and_congr_left fun _ => ?_
  exact (Schema.holds_ofDocument fields made).1

theorem names_schemaFields (built : Generator.schemaFields contract = .ok schema) :
    schema.map Prod.fst = rootFields := by
  obtain ⟨tree, made, rfl⟩ := schemaFields_eq_ok.1 built
  rw [Schema.ofDocument, Checked.bind_eq_ok] at made
  obtain ⟨properties, _, made⟩ := made
  cases made
  rfl

/-- A pointer that selects something in the schema of a contract leads through one of its
fields. -/
theorem rooted_of_resolvesIn (built : Generator.schemaFields contract = .ok schema)
    (resolves : ResolvesIn (.ofFields schema) reference) : Rooted reference := by
  obtain ⟨_, value, selected⟩ := resolves
  unfold Pointer.resolve at selected
  split at selected
  next segments found =>
    refine ⟨segments, found, ?_⟩
    intro first isFirst
    obtain ⟨rest, rfl⟩ := List.head?_eq_some_iff.1 isFirst
    rw [List.foldlM_cons, Value.ofFields, Pointer.step, get?_ofFields] at selected
    cases known : Fields.get? schema first with
    | none =>
        rw [known] at selected
        cases selected
    | some value =>
        rw [← names_schemaFields built]
        exact List.mem_map_of_mem (Fields.mem_of_get? known)
  next => cases selected

/-- The references in a schema that is taken from a document with text keys stand in the
document. -/
theorem deepRefers_of_taken {flat : Value}
    (textual : ∀ entries, DeepPart (.mapping entries) flat → Entries.Textual entries)
    (taken : Contract.Taken fields flat) (refers : DeepRefers (.ofFields fields) reference) :
    DeepRefers flat reference := by
  obtain ⟨part, inside, accepted⟩ := taken
  obtain ⟨entries, rfl, _, stems⟩ := Check.mapping_eq_ok accepted
  rw [deepRefers_ofFields] at refers
  rcases refers with found | ⟨field, member, referring, low, found⟩
  · obtain ⟨held, found, isText⟩ := Option.bind_eq_some_iff.1 found
    obtain ⟨⟨key, value⟩, stands, isKey, equal⟩ := stems _ (Fields.mem_of_get? found)
    obtain ⟨name, rfl⟩ := (textual entries inside).texts _ stands
    cases isKey
    cases equal
    refine ⟨entries, inside, reference?_eq_some.2 ⟨_, ?_, isText⟩⟩
    exact Entries.get?_of_mem (textual entries inside).distinct stands
  · obtain ⟨⟨key, value⟩, stands, _, equal⟩ := stems field member
    cases equal
    exact ⟨referring, (low.trans (.entry stands (.whole _))).trans inside, found⟩

/-- The schema of a contract is self-contained exactly where the references that are left in the
schemas that are copied select something in it, which takes a pointer that is empty or leads
through a field of the schema. The schemas that are copied stand in the resolved document, and where
that has text keys only, the schema has no references but those that are left there. -/
theorem schema_selfContained_iff {document : Value} {location : Option String} {world : World}
    {generator : Generator}
    (accepted : ((Generator.create document location).run.run world).1 = .ok generator)
    (built : Generator.schemaFields generator.contract = .ok schema) :
    (SelfContained (.ofFields schema) ↔
      ∀ fields, generator.contract.Copies fields → ∀ reference,
        DeepRefers (.ofFields fields) reference → ResolvesIn (.ofFields schema) reference) ∧
      (∀ reference, ResolvesIn (.ofFields schema) reference → Rooted reference) ∧
      ∃ flat, (dereference (loads world.host) depthLimit document location).result = .ok flat ∧
        (∀ fields, generator.contract.Copies fields → Contract.Taken fields flat) ∧
        ((∀ entries, DeepPart (.mapping entries) flat → Entries.Textual entries) →
          ∀ reference, DeepRefers (.ofFields schema) reference → DeepRefers flat reference) := by
  obtain ⟨flat, resolved, checked⟩ := create_eq_ok accepted
  have taken (fields : Fields) (copies : generator.contract.Copies fields) :
      Contract.Taken fields flat := Contract.taken_of_copies checked copies
  refine ⟨?_, fun _ => rooted_of_resolvesIn built, flat, resolved, taken, ?_⟩
  · constructor
    · intro selfContained fields copies reference refers
      exact selfContained reference ((deepRefers_schema checked built).2 ⟨fields, copies, refers⟩)
    · intro each reference refers
      obtain ⟨fields, copies, refers⟩ := (deepRefers_schema checked built).1 refers
      exact each fields copies reference refers
  · intro textual reference refers
    obtain ⟨fields, copies, refers⟩ := (deepRefers_schema checked built).1 refers
    exact deepRefers_of_taken textual (taken fields copies) refers

/-- A contract with a schema that is the contract itself. -/
def whole : Value := respond (.mapping [(.text "$ref", .text "#")]) []

/-- The fields of `whole`. -/
def wholeFields : Fields :=
  [("openapi", .text "3.0.0"),
    ("paths", .mapping [(.text "/n", .mapping [(.text "get", .mapping
      [(.text "responses", .mapping [(.text "200", .mapping [(.text "content", .mapping
        [(.text "application/json", .mapping [(.text "schema", .mapping
          [(.text "$ref", .text "#")])])])])])])])])]

/-- A reference to the whole document stays one to the whole schema, so the schema of `whole` is
self-contained. -/
theorem schema_selfContained_iff_whole :
    ((Generator.create whole none).run.run World.bare).1 =
        .ok ⟨responding wholeFields none, none⟩ ∧
      Generator.schemaFields (responding wholeFields none) =
        .ok (responseTree wholeFields).toFields ∧
      SelfContained (.ofFields (responseTree wholeFields).toFields) := by
  have accepted : ((Generator.create whole none).run.run World.bare).1 =
      .ok ⟨responding wholeFields none, none⟩ := by cbv
  have built : Generator.schemaFields (responding wholeFields none) =
      .ok (responseTree wholeFields).toFields := by cbv
  have tree : Schema.ofDocument (responding wholeFields none) = .ok (responseTree wholeFields) := by
    cbv
  refine ⟨accepted, built, (schema_selfContained_iff accepted built).1.2 ?_⟩
  intro fields copies reference refers
  have holds := (Schema.holds_ofDocument fields tree).1.2 copies
  simp [responseTree, Schema.closed] at holds
  subst holds
  simp [wholeFields, deepRefers_ofFields, reference?, referenceKey, Entries.get?_cons,
    Fields.get?_cons] at refers
  subst refers
  exact ⟨by cbv, _, by rfl⟩

/-! ## A schema that refers to itself -/

/-- A contract with a schema that refers to itself. -/
def recursive : Value :=
  respond (.mapping [(.text "$ref", .text "#/components/schemas/Node")])
    [(.text "components", .mapping [(.text "schemas", .mapping [(.text "Node", .mapping
      [(.text "properties", .mapping [(.text "next", .mapping
        [(.text "$ref", .text "#/components/schemas/Node")])])])])])]

/-- The fields of the schema in `recursive`, where the reference is left. -/
def nodeFields : Fields :=
  [("properties", .mapping [(.text "next", .mapping
    [(.text "$ref", .text "#/components/schemas/Node")])])]

/-- The components of `recursive` once it is resolved. -/
def nodeComponents : Fields :=
  [("schemas", .mapping [(.text "Node", .mapping
    [(.text "properties", .mapping [(.text "next", .ofFields nodeFields)])])])]

/-- The schema of a contract with a recursive schema refers to the components of the contract,
which it does not hold. -/
theorem recursive_not_selfContained :
    ((Generator.create recursive none).run.run World.bare).1 =
        .ok ⟨responding nodeFields (some nodeComponents), none⟩ ∧
      Generator.schemaFields (responding nodeFields (some nodeComponents)) =
        .ok (responseTree nodeFields).toFields ∧
      ¬SelfContained (.ofFields (responseTree nodeFields).toFields) := by
  have built : Generator.schemaFields (responding nodeFields (some nodeComponents)) =
      .ok (responseTree nodeFields).toFields := by cbv
  refine ⟨by cbv, built, ?_⟩
  intro selfContained
  have refers : DeepRefers (.ofFields (responseTree nodeFields).toFields)
      "#/components/schemas/Node" := by
    refine (Schema.deepRefers_toFields (responseTree nodeFields) ?_).2 ⟨nodeFields, ?_, ?_⟩
    · intro fields holds
      simp [responseTree, Schema.closed] at holds
      subst holds
      exact ⟨by simp [nodeFields], by simp [nodeFields, Fields.get?_cons]⟩
    · simp [responseTree, Schema.closed]
    · simp [nodeFields, deepRefers_ofFields, reference?, referenceKey, Entries.get?_cons]
  obtain ⟨segments, found, rooted⟩ := rooted_of_resolvesIn built (selfContained _ refers)
  have components : Pointer.segments? (Text.percentDecode
      (split "#/components/schemas/Node").2).toList = some ["components", "schemas", "Node"] := by
    cbv
  cases components.symm.trans found
  exact absurd (rooted "components" rfl) (by decide)

end RouteTypes
