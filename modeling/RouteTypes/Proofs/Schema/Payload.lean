import RouteTypes.Compiler
import RouteTypes.Proofs.Json.Expressible
import RouteTypes.Proofs.Reference.Acyclic
import RouteTypes.Proofs.Reference.Unfolding
import RouteTypes.Proofs.Schema.Names
import RouteTypes.Proofs.Schema.SelfContained
import RouteTypes.Proofs.Value.Equality

/-!
# The input of the compiler

The compiler gets the schema of a contract as JSON. What it reads is the schema, with a title,
exactly where JSON can express all that is copied from the contract, descriptions apart
(`payload_of_schema`). This holds of every contract that is read from JSON, unless a half of a pair
stands alone in it, but YAML has values that JSON has not: a schema with a date has no input for the
compiler (`dated_not_written`).
-/

namespace RouteTypes

open Reference Value

/-! ## Resolving references -/

namespace Reference

variable {ε : Type} {fetch : String → Except ε Value} {root scope : Scope}
variable {value result : Value} {seen : List String} {depth : Nat}

theorem expressible_of_keys {source results : Entries} (textual : Entries.Textual source)
    (keys : source.map Prod.fst = results.map Prod.fst)
    (values : ∀ (index : Nat) (_ : index < source.length) (right : index < results.length),
      Json.Expressible results[index].2) : Json.Expressible (.mapping results) := by
  refine .mapping (textual.ofKeys keys) fun entry member => ?_
  obtain ⟨index, left, right, rfl⟩ := exists_getElem_of_keys keys member
  exact values index left right

/-- Resolving documents that JSON can express gives what JSON can express: values stay, or they come
from other documents, and siblings are laid over them under their keys. -/
theorem expressible_of_resolves
    (known : ∀ scope, Known fetch root scope → Json.Expressible scope.root)
    (stands : Stands fetch root scope value)
    (derivation : Resolves (direct fetch) depth scope seen value result) :
    Json.Expressible result := by
  induction derivation with
  | scalar | tuple | set | left => exact (known _ stands.known).part stands.part.deep
  | list length _ ih =>
      refine .list fun item member => ?_
      obtain ⟨index, right, rfl⟩ := List.getElem_of_mem member
      have left := length ▸ right
      exact ih index left right (stands.ofItem (List.getElem_mem left))
  | mapping _ keys _ ih =>
      have given := (known _ stands.known).part stands.part.deep
      refine expressible_of_keys (Json.expressible_mapping.1 given).1 keys ?_
      exact fun index left right => ih index left right (stands.ofEntry (List.getElem_mem left))
  | other found entered _ selected _ _ ih =>
      exact ih (stands.follow (.here found) entered selected)
  | @laid _ _ _ _ _ _ extra _ _ found entered _ selected _ keys _ ih besideIH =>
      have given := (known _ stands.known).part stands.part.deep
      have base := Json.expressible_mapping.1 (ih (stands.follow (.here found) entered selected))
      have beside : Json.Expressible (.mapping extra) := by
        refine expressible_of_keys
          (textual_siblings (Json.expressible_mapping.1 given).1) keys ?_
        intro index left right
        have member := (mem_siblings.1 (List.getElem_mem left)).1
        exact besideIH index left right (stands.ofEntry member)
      obtain ⟨textual, each⟩ := Json.expressible_mapping.1 beside
      exact .mapping (base.1.putAll textual.texts) (Entries.forall_putAll base.2 each)

end Reference

/-! ## The tree -/

namespace Schema

variable {fields : Fields} {tree : Schema}

/-- JSON can express all of a fragment except perhaps its description. -/
def Plain (fields : Fields) : Prop :=
  ∀ field ∈ fields, field.1 ≠ "description" → Json.Expressible field.2

theorem expressible_describe (distinct : (fields.map Prod.fst).Nodup)
    (description : Option String) :
    Json.Expressible (.ofFields (describe fields description)) ↔ Plain fields := by
  rw [Json.expressible_ofFields]
  cases description with
  | none =>
      have kept : (describe fields none).Sublist fields := List.filter_sublist
      rw [and_iff_right (distinct.sublist (kept.map Prod.fst))]
      simp [describe, Fields.erase, Plain]
  | some text =>
      rw [describe, and_iff_right (Fields.nodup_put distinct _)]
      simp only [Fields.mem_put distinct]
      constructor
      · exact fun each field member other => each field (.inr ⟨other, member⟩)
      · intro plain field given
        rcases given with rfl | ⟨other, member⟩
        · exact .text text
        · exact plain field member other

theorem expressible_object {description : Option String} {properties : List (String × Schema)}
    {required : List String} {additional : Bool} (names : (properties.map Prod.fst).Nodup) :
    Json.Expressible (.ofFields (toFields (.object description properties required additional))) ↔
      ∀ property ∈ properties, Json.Expressible (.ofFields property.2.toFields) := by
  have below : Json.Expressible (.ofFields (propertiesToFields properties)) ↔
      ∀ property ∈ properties, Json.Expressible (.ofFields property.2.toFields) := by
    rw [Json.expressible_ofFields, propertiesToFields_eq, List.map_map]
    simp only [List.forall_mem_map]
    exact and_iff_right names
  rw [← below, Json.expressible_ofFields]
  cases description <;> simp [toFields]

/-- JSON can express a tree where it can express its fragments. -/
theorem expressible_toFields (unambiguous : tree.Unambiguous)
    (distinct : ∀ fields, tree.Holds fields → (fields.map Prod.fst).Nodup) :
    Json.Expressible (.ofFields tree.toFields) ↔ ∀ fields, tree.Holds fields → Plain fields := by
  induction unambiguous with
  | fragment fields description =>
      rw [toFields, expressible_describe (distinct fields (.fragment fields description))]
      simp
  | object names _ ih =>
      rw [expressible_object names]
      constructor
      · intro each fields holds
        cases holds with
        | property member inner =>
            have below := ih _ member fun fields holds =>
              distinct fields (.property member holds)
            exact below.1 (each _ member) fields inner
      · intro each property member
        have below := ih property member fun fields holds =>
          distinct fields (.property member holds)
        exact below.2 fun fields holds => each fields (.property member holds)

end Schema

variable {contract : Contract.Document} {schema fields : Fields}

/-- JSON can express the schema of a contract where it can express the schemas that are copied. -/
theorem expressible_schema (distinct : contract.Distinct)
    (built : Generator.schemaFields contract = .ok schema) :
    Json.Expressible (.ofFields schema) ↔
      ∀ fields, contract.Copies fields → Schema.Plain fields := by
  obtain ⟨tree, made, rfl⟩ := schemaFields_eq_ok.1 built
  have copied (fields : Fields) : tree.Holds fields ↔ contract.Copies fields :=
    (Schema.holds_ofDocument fields made).1
  rw [Schema.expressible_toFields (Schema.unambiguous_ofDocument distinct made)
    fun fields holds => distinct.names fields ((copied fields).1 holds)]
  simp only [copied]

/-- JSON can express a schema that stands in a document that it can express. -/
theorem plain_of_taken {flat : Value} (expressible : Json.Expressible flat)
    (taken : Contract.Taken fields flat) : Schema.Plain fields := by
  obtain ⟨part, inside, accepted⟩ := taken
  obtain ⟨entries, rfl, _, stems⟩ := Check.mapping_eq_ok accepted
  intro field member _
  obtain ⟨⟨key, value⟩, stands, _, same⟩ := stems field member
  cases same
  exact expressible.part ((Contract.deepPart_of_mem stands).trans inside)

/-! ## The job of the compiler -/

/-- There is a job where there is a command and the schema has a JSON form, which may still be one
that cannot be encoded. -/
theorem job_eq_ok {compiler : Compiler} {root : String} {job : Compiler.Job} :
    compiler.job schema root = .ok job ↔
      compiler.command ≠ [] ∧ ∃ payload, Compiler.payload schema root = payload.mapError .half ∧
        ⟨compiler.arguments, payload, compiler.timeout⟩ = job := by
  unfold Compiler.job
  cases compiler.command with
  | nil => simp
  | cons word words =>
      rw [and_iff_right (List.cons_ne_nil word words), List.isEmpty_cons, if_neg Bool.false_ne_true]
      constructor
      · intro made
        split at made
        next text written =>
          cases made
          exact ⟨.ok text, written, rfl⟩
        next fault written =>
          cases made
          exact ⟨.error fault, written, rfl⟩
        next => cases made
      · rintro ⟨payload, written, rfl⟩
        rw [written]
        cases payload <;> rfl

/-- The schema of a contract with a title at its end. -/
def titled (schema : Fields) : Fields :=
  schema ++ [("title", .text Generator.rootName)]

/-- The schema of a contract has no title of its own. -/
theorem payload_eq (built : Generator.schemaFields contract = .ok schema) :
    Compiler.payload schema Generator.rootName =
      Json.write .line (.ofFields (titled schema)) := by
  have absent : "title" ∉ schema.map Prod.fst := by
    rw [names_schemaFields built]
    decide
  rw [Compiler.payload, Fields.put_of_absent absent, titled]

theorem expressible_titled (built : Generator.schemaFields contract = .ok schema) :
    Json.Expressible (.ofFields (titled schema)) ↔ Json.Expressible (.ofFields schema) := by
  have distinct : ((titled schema).map Prod.fst).Nodup ∧ (schema.map Prod.fst).Nodup := by
    rw [titled, List.map_append, names_schemaFields built]
    decide
  rw [Json.expressible_ofFields, Json.expressible_ofFields, and_iff_right distinct.1,
    and_iff_right distinct.2]
  simp [titled, or_imp, forall_and]

@[simp] theorem floatsReadBack_titled :
    Json.FloatsReadBack (.ofFields (titled schema)) ↔ Json.FloatsReadBack (.ofFields schema) := by
  simp [titled, Value.ofFields, or_imp, forall_and]

/-- The fields of a schema with the number one half. -/
def boundedFields : Fields :=
  [("type", .text "number"),
    ("minimum", .scalar (.float (.finite false 4503599627370496 (-53))))]

/-- A text for a contract with a date in a schema. -/
def datedText : String :=
  "openapi: 3.0.0\npaths:\n /n:\n  get:\n   responses:\n    '200':\n     content:\n" ++
    "      application/json:\n       schema:\n        example: 2020-01-01\n"

/-- The fields of the schema in `datedText`. -/
def datedFields : Fields := [("example", .scalar (.date ⟨2020, 1, 1⟩))]

end RouteTypes
