import Mathlib.Logic.Basic
import RouteTypes.Proofs.Reference.Standing
import RouteTypes.Proofs.Value.Entries
import RouteTypes.Proofs.Value.Fields
import RouteTypes.Schema

/-!
# The tree of schemas in its JSON form

What refers to something in the JSON form of a schema: the objects of the tree do not, whatever
they are keyed by, so every reference stands in a fragment (`deepRefers_toFields`).
-/

namespace RouteTypes

open Reference Value

/-! ## References in fields -/

variable {fields : Fields} {reference : String}

@[simp] theorem deepRefers_ofFields :
    DeepRefers (.ofFields fields) reference ↔
      (Fields.get? fields "$ref").bind textOf? = some reference ∨
        ∃ field ∈ fields, DeepRefers field.2 reference := by
  rw [Value.ofFields, deepRefers_mapping, reference?, referenceKey, get?_ofFields]
  simp only [List.mem_map, exists_exists_and_eq_and]

namespace Schema

/-! ## Fragments -/

/-- A fragment stands somewhere in a tree. -/
inductive Holds : Schema → Fields → Prop where
  | fragment (fields : Fields) (description : Option String) :
      Holds (.fragment fields description) fields
  | property {description : Option String} {properties : List (String × Schema)}
      {required : List String} {additional : Bool} {fields : Fields} {property : String × Schema}
      (member : property ∈ properties) (inner : Holds property.2 fields) :
      Holds (.object description properties required additional) fields

@[simp] theorem holds_fragment {description : Option String} {other : Fields} :
    Holds (.fragment fields description) other ↔ other = fields := by
  constructor
  · intro equal
    cases equal
    rfl
  · intro equal
    subst equal
    exact .fragment _ _

@[simp] theorem holds_object {description : Option String} {properties : List (String × Schema)}
    {required : List String} {additional : Bool} :
    Holds (.object description properties required additional) fields ↔
      ∃ property ∈ properties, Holds property.2 fields := by
  constructor
  · intro given
    rcases given with _ | ⟨member, inner⟩
    exact ⟨_, member, inner⟩
  · intro given
    rcases given with ⟨property, member, inner⟩
    exact .property member inner

/-- Induction along the properties of a tree. -/
@[elab_as_elim]
theorem inductionOnProperties {motive : Schema → Prop}
    (fragment : ∀ fields description, motive (.fragment fields description))
    (object : ∀ description properties required additional,
      (∀ property ∈ properties, motive property.2) →
        motive (.object description properties required additional)) :
    ∀ schema, motive schema
  | .fragment fields description => fragment fields description
  | .object description properties required additional =>
      object description properties required additional fun property _ =>
        inductionOnProperties fragment object property.2
termination_by schema => sizeOf schema
decreasing_by
  have smaller := List.sizeOf_lt_of_mem ‹property ∈ properties›
  have half : sizeOf property.2 < sizeOf property := by
    cases property
    simp only [Prod.mk.sizeOf_spec]
    omega
  rw [Schema.object.sizeOf_spec]
  omega

theorem propertiesToFields_eq (properties : List (String × Schema)) :
    propertiesToFields properties =
      properties.map fun property => (property.1, .ofFields property.2.toFields) := by
  induction properties with
  | nil => rfl
  | cons property rest ih => rw [propertiesToFields, ih, List.map_cons]

/-! ## Descriptions -/

/-- The names of the fields are distinct, and what stands under the name of the description refers
to nothing. -/
structure Tidy (fields : Fields) : Prop where
  distinct : (fields.map Prod.fst).Nodup
  described : ∀ value, Fields.get? fields "description" = some value →
    ∀ reference, ¬DeepRefers value reference

theorem Tidy.not_refers (tidy : Tidy fields) {field : String × Value} (member : field ∈ fields)
    (named : field.1 = "description") : ¬DeepRefers field.2 reference := by
  refine tidy.described field.2 ?_ reference
  have distinct := tidy.distinct
  clear tidy
  induction fields with
  | nil => cases member
  | cons first rest ih =>
      rw [List.map_cons, List.nodup_cons] at distinct
      rw [Fields.get?_cons]
      rcases List.mem_cons.1 member with rfl | member
      · rw [if_pos (by simpa using named)]
      · have other : first.1 ≠ "description" := by
          intro same
          exact distinct.1 (same ▸ named ▸ List.mem_map_of_mem member)
        rw [if_neg (by simpa using other)]
        exact ih member distinct.2

@[simp] theorem get?_put_of_ne {name other : String} (different : name ≠ other) (value : Value) :
    Fields.get? (Fields.put fields name value) other = Fields.get? fields other := by
  rw [Fields.get?_put, if_neg (by simpa using different)]

theorem get?_erase_of_ne {name other : String} (different : name ≠ other) :
    Fields.get? (Fields.erase fields name) other = Fields.get? fields other := by
  induction fields with
  | nil => rfl
  | cons field rest ih =>
      rw [Fields.erase] at ih ⊢
      by_cases equal : field.1 = name
      · simp [equal, Fields.get?_cons, different, ih]
      · simp [equal, Fields.get?_cons, ih]

/-- Rewriting the description of a fragment neither adds nor takes away a reference. -/
theorem deepRefers_describe (tidy : Tidy fields) (description : Option String) :
    DeepRefers (.ofFields (describe fields description)) reference ↔
      DeepRefers (.ofFields fields) reference := by
  rw [deepRefers_ofFields, deepRefers_ofFields]
  cases description with
  | none =>
      rw [describe, get?_erase_of_ne (by decide)]
      apply or_congr_right
      constructor
      · intro given
        rcases given with ⟨field, member, refers⟩
        exact ⟨field, (List.mem_filter.1 member).1, refers⟩
      · intro given
        rcases given with ⟨field, member, refers⟩
        refine ⟨field, List.mem_filter.2 ⟨member, ?_⟩, refers⟩
        have other : field.1 ≠ "description" := fun named => tidy.not_refers member named refers
        simpa using other
  | some text =>
      rw [describe, get?_put_of_ne (by decide)]
      apply or_congr_right
      simp only [Fields.mem_put tidy.distinct]
      constructor
      · intro given
        rcases given with ⟨field, rfl | ⟨_, member⟩, refers⟩
        · simp at refers
        · exact ⟨field, member, refers⟩
      · intro given
        rcases given with ⟨field, member, refers⟩
        have other : field.1 ≠ "description" := fun named => tidy.not_refers member named refers
        exact ⟨field, .inr ⟨other, member⟩, refers⟩

/-- What refers to something in the JSON form of a tree stands in one of its fragments. -/
theorem deepRefers_toFields (schema : Schema)
    (tidy : ∀ fields, schema.Holds fields → Tidy fields) :
    DeepRefers (.ofFields schema.toFields) reference ↔
      ∃ fields, schema.Holds fields ∧ DeepRefers (.ofFields fields) reference := by
  induction schema using inductionOnProperties with
  | fragment fields description =>
      simp [toFields, deepRefers_describe (tidy fields (.fragment fields description))]
  | object description properties required additional ih =>
      have noText : (Fields.get? (propertiesToFields properties) "$ref").bind textOf? = none := by
        rw [Option.bind_eq_none_iff]
        intro value found
        have member := Fields.mem_of_get? found
        rw [propertiesToFields_eq, List.mem_map] at member
        obtain ⟨property, _, equal⟩ := member
        obtain rfl : ofFields property.2.toFields = value := congrArg Prod.snd equal
        rfl
      have below : DeepRefers (.ofFields (propertiesToFields properties)) reference ↔
          ∃ property ∈ properties, DeepRefers (.ofFields property.2.toFields) reference := by
        rw [deepRefers_ofFields, noText, or_iff_right nofun, propertiesToFields_eq]
        simp only [List.mem_map, exists_exists_and_eq_and]
      have whole : DeepRefers (.ofFields (toFields (.object description properties required
          additional))) reference ↔
            DeepRefers (.ofFields (propertiesToFields properties)) reference := by
        cases description <;> rw [toFields, deepRefers_ofFields] <;> simp [Fields.get?_cons]
      rw [whole, below]
      constructor
      · intro given
        rcases given with ⟨property, member, refers⟩
        obtain ⟨fields, holds, refers⟩ :=
          (ih property member fun fields holds => tidy fields (.property member holds)).1 refers
        exact ⟨fields, .property member holds, refers⟩
      · intro given
        rcases given with ⟨fields, holds, refers⟩
        cases holds with
        | property member holds =>
            refine ⟨_, member, ?_⟩
            exact (ih _ member fun fields holds => tidy fields (.property member holds)).2
              ⟨fields, holds, refers⟩

end Schema

end RouteTypes
