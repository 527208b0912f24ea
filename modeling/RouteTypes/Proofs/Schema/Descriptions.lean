import RouteTypes.Proofs.Contract.Distinct
import RouteTypes.Proofs.Schema.Levels
import RouteTypes.Proofs.Schema.SelfContained

/-!
# Descriptions that are no texts

Of everything that a schema of a contract may hold, only its description is looked at while the
tree is built. The tree of an accepted contract, or of a part of it, can be built exactly where all
descriptions of the schemas that are read can be read as texts
(`ofDocument_iff_describable`). An accepted contract may have others
(`numbered_description_refused`).
-/

namespace RouteTypes

open Check Value Reference

namespace Check

/-- What is wrong with a value that is no text. A text has to be whole, and bytes have to encode
one. -/
inductive Unreadable : Value → Kind → Prop where
  | broken (text : BrokenText) : Unreadable (.scalar (.broken text)) .unicode
  | bytes {bytes : Bytes} {fault : Utf8.Fault} (malformed : Utf8.decode bytes = .error fault) :
      Unreadable (.scalar (.bytes bytes)) .unicode
  | other {value : Value} (noText : ∀ text, value ≠ .text text)
      (noBroken : ∀ text, value ≠ .scalar (.broken text))
      (noBytes : ∀ bytes, value ≠ .scalar (.bytes bytes)) : Unreadable value .text

/-- A value is read as a text, or it is clear what is wrong with it. -/
theorem text_cases (value : Value) :
    (∃ result, text value = .ok result ∧ ReadsAs value result) ∨
      ∃ kind, text value = .error [⟨[], kind⟩] ∧ Unreadable value kind := by
  cases outcome : text value with
  | ok result => exact .inl ⟨result, rfl, text_eq_ok.1 outcome⟩
  | error problems =>
      right
      unfold text at outcome
      split at outcome
      next scalar =>
        unfold scalarText at outcome
        split at outcome
        next => cases outcome
        next broken =>
          cases outcome
          exact ⟨.unicode, rfl, .broken broken⟩
        next bytes =>
          split at outcome
          next => cases outcome
          next fault malformed =>
            cases outcome
            exact ⟨.unicode, rfl, .bytes malformed⟩
        next noText noBroken noBytes =>
          cases outcome
          refine ⟨.text, rfl, .other ?_ ?_ ?_⟩
          · exact fun text same => noText text (Value.scalar.inj same)
          · exact fun text same => noBroken text (Value.scalar.inj same)
          · exact fun bytes same => noBytes bytes (Value.scalar.inj same)
      next noScalar =>
        cases outcome
        exact ⟨.text, rfl, .other (fun _ => noScalar _) (fun _ => noScalar _) fun _ => noScalar _⟩

theorem not_readsAs_of_unreadable {value : Value} {kind : Kind} (unreadable : Unreadable value kind)
    (result : String) : ¬ReadsAs value result := by
  intro reads
  cases unreadable with
  | broken => cases reads
  | bytes malformed =>
      cases reads with
      | bytes decoded => cases malformed.symm.trans decoded
  | other noText _ noBytes =>
      cases reads with
      | text => exact noText _ rfl
      | bytes => exact noBytes _ rfl

end Check

namespace Schema

/-- The description of a schema is absent, or can be read as a text. -/
inductive Describable (fields : Fields) : Prop where
  | absent (missing : Fields.get? fields "description" = none)
  | null (given : Fields.get? fields "description" = some .null)
  | text {value : Value} {text : String} (given : Fields.get? fields "description" = some value)
      (reads : ReadsAs value text)

/-- What is wrong with the description of a schema. -/
inductive Undescribed (fields : Fields) (kind : Kind) : Prop where
  | value {value : Value} (given : Fields.get? fields "description" = some value)
      (notNull : value ≠ .null) (unreadable : Unreadable value kind)

theorem not_describable_of_undescribed {fields : Fields} {kind : Kind}
    (undescribed : Undescribed fields kind) : ¬Describable fields := by
  intro describable
  obtain ⟨given, notNull, unreadable⟩ := undescribed
  cases describable with
  | absent missing => cases missing.symm.trans given
  | null alsoGiven => exact notNull (Option.some.inj (given.symm.trans alsoGiven))
  | text alsoGiven reads =>
      cases given.symm.trans alsoGiven
      exact not_readsAs_of_unreadable unreadable _ reads

/-! ## How building a part of the tree ends -/

/-- How building a part of the tree from some schemas ends: it succeeds where all of them can be
described, and otherwise fails with what is wrong with the description of one. -/
inductive Outcome {α : Type} (offered : Fields → Prop) : Checked α → Prop where
  | built (result : α) (describable : ∀ fields, offered fields → Describable fields) :
      Outcome offered (.ok result)
  | refused {fields : Fields} {kind : Kind} (member : offered fields)
      (undescribed : Undescribed fields kind) :
      Outcome offered (.error [⟨[.name "description"], kind⟩])

namespace Outcome

variable {α β : Type} {offered others : Fields → Prop} {checked : Checked α}

theorem of_iff (outcome : Outcome offered checked)
    (same : ∀ fields, offered fields ↔ others fields) : Outcome others checked := by
  cases outcome with
  | built result describable =>
      exact .built result fun fields member => describable fields ((same fields).2 member)
  | refused member undescribed => exact .refused ((same _).1 member) undescribed

theorem pure (result : α) : Outcome (fun _ => False) (.ok result) :=
  .built result nofun

theorem bind {next : α → Checked β} (first : Outcome offered checked)
    (second : ∀ result, Outcome others (next result)) :
    Outcome (fun fields => offered fields ∨ others fields) (checked >>= next) := by
  cases first with
  | refused member undescribed => exact .refused (.inl member) undescribed
  | built result describable =>
      have later := second result
      change Outcome _ (next result)
      generalize next result = final at later ⊢
      cases later with
      | refused member undescribed => exact .refused (.inr member) undescribed
      | built final alsoDescribable =>
          exact .built final fun fields member =>
            member.elim (describable fields) (alsoDescribable fields)

theorem map (outcome : Outcome offered checked) (image : α → β) :
    Outcome offered (image <$> checked) := by
  cases outcome with
  | built result describable => exact .built (image result) describable
  | refused member undescribed => exact .refused member undescribed

/-- Building succeeds exactly where all schemas can be described. -/
theorem exists_ok_iff (outcome : Outcome offered checked) :
    (∃ result, checked = .ok result) ↔ ∀ fields, offered fields → Describable fields := by
  cases outcome with
  | built result describable => exact ⟨fun _ => describable, fun _ => ⟨result, rfl⟩⟩
  | refused member undescribed =>
      constructor
      · intro impossible
        rcases impossible with ⟨_, ⟨⟩⟩
      · intro all
        exact absurd (all _ member) (not_describable_of_undescribed undescribed)

/-- Where building fails, it is the description of one schema that is wrong. -/
theorem of_error {problems : List Problem} (outcome : Outcome offered checked)
    (failed : checked = .error problems) :
    ∃ fields kind, offered fields ∧ Undescribed fields kind ∧
      problems = [⟨[.name "description"], kind⟩] := by
  cases outcome with
  | built => cases failed
  | refused member undescribed =>
      cases failed
      exact ⟨_, _, member, undescribed, rfl⟩

end Outcome

/-! ## Fragments -/

variable {fields : Fields} {summary fallback route : String}

/-- Reading the description that a schema has. -/
theorem outcome_descriptionOf {value : Value}
    (given : Fields.get? fields "description" = some value) (notNull : value ≠ .null) :
    Outcome (· = fields) (descriptionOf (some value)) := by
  rw [descriptionOf, optional_of_ne_null notNull]
  rcases text_cases value with ⟨result, accepted, reads⟩ | ⟨kind, refused, unreadable⟩
  · rw [accepted]
    refine .built (some result) ?_
    intro other same
    subst same
    exact .text given reads
  · rw [refused]
    exact .refused rfl ⟨given, notNull, unreadable⟩

/-- Copying a schema with the description that it has. -/
theorem outcome_own :
    Outcome (· = fields) (fragmentOf fields (Fields.get? fields "description")) := by
  rw [fragmentOf, ← map_eq_pure_bind]
  refine .map ?_ _
  cases given : Fields.get? fields "description" with
  | none =>
      refine .built none ?_
      intro other same
      subst same
      exact .absent given
  | some value =>
      by_cases null : value = .null
      · subst null
        refine .built none ?_
        intro other same
        subst same
        exact .null given
      · exact outcome_descriptionOf given null

/-- Copying a schema with the description that it has, or else with a text. -/
theorem outcome_fallback :
    Outcome (· = fields) (fragmentOf fields
      (some ((present? (Fields.get? fields "description")).getD (.text fallback)))) := by
  rw [fragmentOf, ← map_eq_pure_bind]
  refine .map ?_ _
  cases given : present? (Fields.get? fields "description") with
  | some value =>
      obtain ⟨found, notNull⟩ := present?_eq_some.1 given
      exact outcome_descriptionOf found notNull
  | none =>
      refine .built (some fallback) ?_
      intro other same
      subst same
      cases found : Fields.get? other "description" with
      | none => exact .absent found
      | some value =>
          by_cases null : value = .null
          · exact .null (null ▸ found)
          · rw [present?_eq_some.2 ⟨found, null⟩] at given
            cases given

/-! ## The levels of the tree -/

theorem outcome_ofBody (body : Option Contract.Body) :
    Outcome (fun fields => ∃ given, body = some given ∧ given.schema? = some fields)
      (ofBody fallback body) := by
  cases body with
  | none => exact .of_iff (.pure none) (by simp)
  | some given =>
      cases schema : given.schema? with
      | none =>
          rw [ofBody, schema]
          exact .of_iff (.pure none) (by simp [schema])
      | some fields =>
          rw [ofBody, schema]
          exact .of_iff (.map outcome_fallback some) (by simp [schema, eq_comm])

theorem outcome_children {κ α : Type} {name : κ → String}
    {schemaOf : κ → α → Checked (Option Schema)} {offered : κ × α → Fields → Prop}
    (items : List (κ × α))
    (each : ∀ item ∈ items, Outcome (offered item) (schemaOf item.1 item.2)) :
    Outcome (fun fields => ∃ item ∈ items, offered item fields)
      (children name schemaOf items) := by
  induction items with
  | nil => exact .of_iff (.pure []) (by simp)
  | cons first rest ih =>
      obtain ⟨key, item⟩ := first
      have later := ih fun item member => each item (List.mem_cons_of_mem _ member)
      rw [children]
      refine .of_iff (.bind (each (key, item) List.mem_cons_self) fun _ =>
        .bind later fun _ => .pure _) ?_
      simp

theorem outcome_parameterProperties (parameters : List Contract.Parameter)
    (before : List (String × Schema)) :
    Outcome (fun fields => ∃ parameter ∈ parameters, parameter.schema? = some fields)
      (parameterProperties before parameters) := by
  induction parameters generalizing before with
  | nil => exact .of_iff (.pure before) (by simp)
  | cons parameter rest ih =>
      cases schema : parameter.schema? with
      | none =>
          rw [parameterProperties, schema]
          exact .of_iff (ih before) (by simp [schema])
      | some fields =>
          rw [parameterProperties, schema]
          refine .of_iff (.bind outcome_own fun _ => ih _) ?_
          simp [schema, eq_comm]

theorem outcome_ofGroup (parameters : List Contract.Parameter) (group : Group) :
    Outcome (fun fields => ∃ parameter ∈ parameters, parameter.location = group.location ∧
      parameter.schema? = some fields) (ofGroup summary parameters group) := by
  unfold ofGroup
  dsimp only
  split
  next empty =>
    refine .of_iff (.pure none) fun fields => ?_
    rw [List.isEmpty_iff, List.filter_eq_nil_iff] at empty
    constructor
    · exact False.elim
    · intro given
      rcases given with ⟨parameter, member, located, _⟩
      exact empty parameter member (by simpa using located)
  next =>
    refine .of_iff (.bind (outcome_parameterProperties _ []) fun _ => .pure _) ?_
    simp [and_assoc]

theorem outcome_ofGroups (parameters : List Contract.Parameter) (groups : List Group) :
    Outcome (fun fields => ∃ parameter ∈ parameters, (∃ group ∈ groups,
      parameter.location = group.location) ∧ parameter.schema? = some fields)
      (ofGroups summary parameters groups) := by
  induction groups with
  | nil => exact .of_iff (.pure []) (by simp)
  | cons group rest ih =>
      rw [ofGroups]
      refine .of_iff (.bind (outcome_ofGroup parameters group) fun _ =>
        .bind ih fun _ => .pure _) ?_
      simp only [List.mem_cons, or_false]
      grind

theorem outcome_ofResponses (responses : Option (List (String × Option Contract.Body))) :
    Outcome (fun fields => ∃ given status body, responses = some given ∧
      (status, some body) ∈ given ∧ body.schema? = some fields)
      (ofResponses summary responses) := by
  cases responses with
  | none => exact .of_iff (.pure none) (by simp)
  | some given =>
      rw [ofResponses]
      refine .of_iff (.bind (outcome_children given fun response _ =>
        outcome_ofBody response.2) fun _ => .pure _) ?_
      simp [Prod.exists]

theorem offers_iff {operation : Contract.Operation} :
    operation.Offers fields ↔
      (∃ given, operation.requestBody = some given ∧ given.schema? = some fields) ∨
        (∃ parameter ∈ operation.parameters, parameter.schema? = some fields) ∨
          ∃ given status body, operation.responses = some given ∧
            (status, some body) ∈ given ∧ body.schema? = some fields := by
  constructor
  · intro offers
    cases offers with
    | request given schema => exact .inl ⟨_, given, schema⟩
    | response given member schema => exact .inr (.inr ⟨_, _, _, given, member, schema⟩)
    | parameter member schema => exact .inr (.inl ⟨_, member, schema⟩)
  · intro possible
    rcases possible with ⟨_, given, schema⟩ | ⟨_, member, schema⟩ | ⟨_, _, _, given, member, schema⟩
    · exact .request given schema
    · exact .parameter member schema
    · exact .response given member schema

theorem outcome_ofOperation {method : Contract.Method} (operation : Option Contract.Operation) :
    Outcome (fun fields => ∃ given, operation = some given ∧ given.Offers fields)
      (ofOperation route method operation) := by
  cases operation with
  | none => exact .of_iff (.pure none) (by simp)
  | some given =>
      rw [ofOperation]
      refine .of_iff (.bind (outcome_ofBody given.requestBody) fun _ =>
        .bind (outcome_ofGroups given.parameters groups) fun _ =>
          .bind (outcome_ofResponses given.responses) fun _ => .pure _) ?_
      have grouped (location : Contract.Location) :
          ∃ group ∈ groups, location = group.location := by
        obtain ⟨group, member, same⟩ := exists_group location
        exact ⟨group, member, same.symm⟩
      simp [offers_iff, grouped]

theorem outcome_ofPathItem (item : Option Contract.PathItem) :
    Outcome (fun fields => ∃ given method operation, item = some given ∧
      (method, some operation) ∈ given.operations ∧ operation.Offers fields)
      (ofPathItem route item) := by
  cases item with
  | none => exact .of_iff (.pure none) (by simp)
  | some given =>
      unfold ofPathItem
      dsimp only
      split
      next empty => exact .of_iff (.pure none) (by simp [List.isEmpty_iff.1 empty])
      next =>
        refine .of_iff (.bind (outcome_children given.operations fun method _ =>
          outcome_ofOperation method.2) fun _ => .pure _) ?_
        simp

theorem outcome_ofDocument (contract : Contract.Document) :
    Outcome contract.Offers (ofDocument contract) := by
  rw [ofDocument]
  refine .of_iff (.bind (outcome_children contract.paths fun route _ =>
    outcome_ofPathItem route.2) fun _ => .pure _) ?_
  simp [Contract.Document.Offers]

/-- The schemas that are read for a part of a contract are read for the contract. -/
theorem offers_of_narrow {contract : Contract.Document} {filter : Option RouteFilter}
    (offers : (contract.narrow filter).Offers fields) : contract.Offers fields := by
  obtain ⟨route, item, method, operation, stands, member, offers⟩ := offers
  exact ⟨route, item, method, operation, (Contract.sublist_narrow contract filter).subset stands,
    member, offers⟩

/-- The fields of a schema with a text for its description. -/
def titledFields : Fields := [("description", .text "A pet")]

/-- The fields of a schema with a number for its description. -/
def numberedFields : Fields := [("description", .int 5)]

end Schema

end RouteTypes
