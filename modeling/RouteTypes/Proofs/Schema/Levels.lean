import RouteTypes.Proofs.Schema.Construction

/-!
# The levels of the tree

What is found under the keys of the JSON form of a tree, level by level. The children of an object
are those items that have a schema, under their names and in their order (`get?_children`,
`names_children`), and a body has a schema where its content has one (`ofBody_eq_some`).
-/

namespace RouteTypes

open Value

namespace Check

/-- The text that a value is read as where a text is expected. Bytes are read as the text that they
encode. -/
inductive ReadsAs : Value → String → Prop where
  | text (text : String) : ReadsAs (.text text) text
  | bytes {bytes : Bytes} {text : List Char} (decoded : Utf8.decode bytes = .ok text) :
      ReadsAs (.scalar (.bytes bytes)) (String.ofList text)

@[simp] theorem readsAs_text {given text : String} : ReadsAs (.text given) text ↔ given = text := by
  constructor
  · intro reads
    cases reads
    rfl
  · intro equal
    subst equal
    exact .text _

@[simp] theorem text_eq_ok {value : Value} {result : String} :
    text value = .ok result ↔ ReadsAs value result := by
  constructor
  · intro success
    unfold text at success
    split at success
    next scalar =>
      unfold scalarText at success
      split at success
      next =>
        cases success
        exact .text _
      next => cases success
      next =>
        split at success
        next decoded =>
          cases success
          exact .bytes decoded
        next => cases success
      next => cases success
    next => cases success
  · intro reads
    cases reads with
    | text => rfl
    | bytes decoded => rw [text, scalarText, decoded]

end Check

namespace Contract

/-- Those of several parameters that are sent to a place, in their order. -/
def sentTo (location : Location) (parameters : List Parameter) : List Parameter :=
  parameters.filter fun parameter => parameter.location = location

end Contract

open Check

namespace Schema

open Contract (sentTo)

variable {fields : Fields} {fallback summary route : String}

/-! ## Descriptions and bodies -/

/-- The description of a body in the tree: that of its schema, else its own, else the given one. -/
inductive BodyText (fields : Fields) (own : Option String) (fallback : String) : String → Prop where
  | schema {value : Value} {text : String}
      (found : Fields.get? fields "description" = some value) (reads : ReadsAs value text) :
      BodyText fields own fallback text
  | body {text : String} (absent : present? (Fields.get? fields "description") = none)
      (given : own = some text) : BodyText fields own fallback text
  | fallback (absent : present? (Fields.get? fields "description") = none) (none : own = none) :
      BodyText fields own fallback fallback

@[simp] theorem present?_eq_some {value : Option Value} {given : Value} :
    present? value = some given ↔ value = some given ∧ given ≠ .null := by
  rw [present?, Option.filter_eq_some_iff]
  apply and_congr_right
  intro _
  unfold isNull
  split
  next => simp
  next other => simpa using other

theorem not_null_of_readsAs {value : Value} {text : String} (reads : ReadsAs value text) :
    value ≠ .null := by
  intro absent
  subst absent
  cases reads

/-- The description of a fragment is absent, or it is a text. -/
theorem descriptionOf_eq_ok {value : Option Value} {description : Option String} :
    descriptionOf value = .ok description ↔
      present? value = none ∧ none = description ∨
        ∃ given text, present? value = some given ∧ ReadsAs given text ∧
          some text = description := by
  cases value with
  | none => simp [descriptionOf, present?]
  | some value =>
      rw [descriptionOf, Checked.within_eq_ok]
      by_cases absent : value = .null
      · subst absent
        have none : present? (some Value.null) = none := rfl
        simp [Check.optional, none]
      · have given : present? (some value) = some value := present?_eq_some.2 ⟨rfl, absent⟩
        simp [optional_of_ne_null absent, given, Functor.map, Checked.map_eq_ok, text_eq_ok]

theorem fragmentOf_iff {value : Option Value} {schema : Schema} :
    fragmentOf fields value = .ok schema ↔
      ∃ description, descriptionOf value = .ok description ∧
        .fragment fields description = schema := by
  rw [fragmentOf, Checked.bind_eq_ok]
  simp only [Checked.pure_eq_ok]

/-- The description that is given to the fragment of a body. -/
theorem descriptionOf_body {own description : Option String} :
    descriptionOf (some ((present? (Fields.get? fields "description")).getD
        (.text (own.getD fallback)))) = .ok description ↔
      ∃ text, BodyText fields own fallback text ∧ some text = description := by
  rw [descriptionOf_eq_ok]
  cases given : present? (Fields.get? fields "description") with
  | none =>
      have unread {value : Value} {text : String}
          (found : Fields.get? fields "description" = some value) : ¬ReadsAs value text := by
        intro reads
        rw [present?_eq_some.2 ⟨found, not_null_of_readsAs reads⟩] at given
        cases given
      constructor
      · intro possible
        rcases possible with ⟨impossible, _⟩ | ⟨_, text, ⟨⟩, reads, rfl⟩
        · cases impossible
        · refine ⟨text, ?_, rfl⟩
          rw [Option.getD_none, readsAs_text] at reads
          subst reads
          cases own with
          | none => exact .fallback given rfl
          | some own => exact .body given rfl
      · intro possible
        rcases possible with ⟨_, ⟨found, reads⟩ | ⟨_, rfl⟩ | ⟨_, rfl⟩, rfl⟩
        · exact absurd reads (unread found)
        · exact .inr ⟨_, _, rfl, .text _, rfl⟩
        · exact .inr ⟨_, _, rfl, .text _, rfl⟩
  | some value =>
      obtain ⟨found, notNull⟩ := present?_eq_some.1 given
      rw [Option.getD_some, present?_eq_some.2 ⟨rfl, notNull⟩]
      constructor
      · intro possible
        rcases possible with ⟨impossible, _⟩ | ⟨_, text, ⟨⟩, reads, rfl⟩
        · cases impossible
        · exact ⟨text, .schema found reads, rfl⟩
      · intro possible
        rcases possible with ⟨text, ⟨alsoFound, reads⟩ | ⟨absent, _⟩ | ⟨absent, _⟩, rfl⟩
        · cases found.symm.trans alsoFound
          exact .inr ⟨value, text, rfl, reads, rfl⟩
        · cases given.symm.trans absent
        · cases given.symm.trans absent

/-- The bodies that have a schema in the tree. -/
theorem ofBody_eq_some {body : Option Contract.Body} {schema : Schema} :
    ofBody fallback body = .ok (some schema) ↔
      ∃ given fields text, body = some given ∧ given.schema? = some fields ∧
        BodyText fields given.description fallback text ∧
        .fragment fields (some text) = schema := by
  cases body with
  | none => simp [ofBody]
  | some given =>
      cases found : given.schema? with
      | none => simp [ofBody, found]
      | some fields =>
          simp [ofBody, found, Functor.map, Checked.map_eq_ok, fragmentOf_iff, descriptionOf_body]

@[simp] theorem ofBody_eq_none {body : Option Contract.Body} :
    ofBody fallback body = .ok none ↔ body.bind Contract.Body.schema? = none := by
  cases body with
  | none => simp [ofBody]
  | some given =>
      cases found : given.schema? with
      | none => simp [ofBody, found]
      | some fields => simp [ofBody, found, Functor.map, Checked.map_eq_ok]

/-! ## Children -/

section Children

variable {κ α : Type} {name : κ → String} {schemaOf : κ → α → Checked (Option Schema)}
variable {items : List (κ × α)} {results : List (String × Schema)}

/-- The children of an object stand under the names of those items that have a schema. -/
theorem get?_children [BEq κ] [LawfulBEq κ] (injective : name.Injective)
    (distinct : (items.map Prod.fst).Nodup) (success : children name schemaOf items = .ok results)
    {key : κ} {schema : Schema} :
    Fields.get? results (name key) = some schema ↔
      ∃ item, Fields.get? items key = some item ∧ schemaOf key item = .ok (some schema) := by
  induction items generalizing results with
  | nil =>
      cases success
      simp
  | cons first rest ih =>
      obtain ⟨firstKey, item⟩ := first
      rw [List.map_cons, List.nodup_cons] at distinct
      simp only [children, Checked.bind_eq_ok, Checked.pure_eq_ok] at success
      obtain ⟨result, built, others, success, rfl⟩ := success
      have later := ih distinct.2 success
      rw [Fields.get?_cons]
      by_cases equal : firstKey = key
      · subst equal
        have absent : Fields.get? rest firstKey = none := Fields.get?_eq_none_iff.2 distinct.1
        cases result with
        | none => simp [later, absent, built]
        | some schema => simp [Fields.get?_cons, built]
      · have different : name firstKey ≠ name key := fun same => equal (injective same)
        cases result with
        | none => simp [later, equal]
        | some schema => simp [Fields.get?_cons, different, later, equal]

/-- The children of an object stand in the order of the items. -/
theorem names_children (shown : κ × α → Bool)
    (isShown : ∀ item ∈ items, ∀ result, schemaOf item.1 item.2 = .ok result →
      result.isSome = shown item)
    (success : children name schemaOf items = .ok results) :
    results.map Prod.fst = (items.filter shown).map fun item => name item.1 := by
  induction items generalizing results with
  | nil =>
      cases success
      rfl
  | cons first rest ih =>
      simp only [children, Checked.bind_eq_ok, Checked.pure_eq_ok] at success
      obtain ⟨result, built, others, success, rfl⟩ := success
      have later := ih (fun item member => isShown item (List.mem_cons_of_mem _ member)) success
      have here := isShown first List.mem_cons_self result built
      cases result with
      | none => rw [List.filter_cons_of_neg (by simp [← here]), later]
      | some schema =>
          rw [List.filter_cons_of_pos (by simp [← here]), List.map_cons, List.map_cons, later]

/-- The fields of an operation are the children of an object without a failure. -/
@[simp] theorem children_ok (fields : List (String × Option Schema)) :
    children id (fun _ child => .ok child) fields = .ok (present fields) := by
  induction fields with
  | nil => rfl
  | cons field rest ih =>
      obtain ⟨name, child⟩ := field
      rw [children, ih]
      cases child <;> rfl

end Children

/-! ## The levels of a contract -/

theorem ofPathItem_eq_some {item : Option Contract.PathItem} {schema : Schema} :
    ofPathItem route item = .ok (some schema) ↔
      ∃ given properties, item = some given ∧ given.operations ≠ [] ∧
        children Contract.Method.name (ofOperation route) given.operations = .ok properties ∧
        closed none properties = schema := by
  cases item with
  | none => simp [ofPathItem]
  | some given =>
      by_cases empty : given.operations = []
      · simp [ofPathItem, empty]
      · simp [ofPathItem, empty, Functor.map, Checked.map_eq_ok]

@[simp] theorem ofPathItem_eq_none {item : Option Contract.PathItem} :
    ofPathItem route item = .ok none ↔ ∀ given, item = some given → given.operations = [] := by
  cases item with
  | none => simp [ofPathItem]
  | some given =>
      by_cases empty : given.operations = []
      · simp [ofPathItem, empty]
      · simp [ofPathItem, empty, Functor.map, Checked.map_eq_ok]

theorem ofResponses_eq_some {responses : Option (List (String × Option Contract.Body))}
    {schema : Schema} :
    ofResponses summary responses = .ok (some schema) ↔
      ∃ given properties, responses = some given ∧
        children id (fun status body => ofBody s!"{status} response for {summary}" body) given =
          .ok properties ∧
        closed (some s!"Response(s) for {summary}") properties = schema := by
  cases responses with
  | none => simp [ofResponses]
  | some given => simp [ofResponses, Functor.map, Checked.map_eq_ok]

@[simp] theorem ofResponses_eq_none {responses : Option (List (String × Option Contract.Body))} :
    ofResponses summary responses = .ok none ↔ responses = none := by
  cases responses with
  | none => simp [ofResponses]
  | some given => simp [ofResponses, Functor.map, Checked.map_eq_ok]

/-- What an operation is made of: its request body, the groups of its parameters and its
responses. -/
theorem ofOperation_eq_some {method : Contract.Method} {operation : Option Contract.Operation}
    {schema : Schema} :
    ofOperation route method operation = .ok (some schema) ↔
      ∃ given body groupResults responses, operation = some given ∧
        ofBody s!"Request body for {summaryOf method route}" given.requestBody = .ok body ∧
        ofGroups (summaryOf method route) given.parameters groups = .ok groupResults ∧
        ofResponses (summaryOf method route) given.responses = .ok responses ∧
        closed (some (operationDescription (summaryOf method route) given.description))
          (present (("requestBody", body) :: groupResults ++ [("responses", responses)])) =
            schema := by
  cases operation with
  | none => simp [ofOperation]
  | some given => simp [ofOperation, Checked.bind_eq_ok, Functor.map, Checked.map_eq_ok]

@[simp]
theorem ofOperation_eq_none {method : Contract.Method} {operation : Option Contract.Operation} :
    ofOperation route method operation = .ok none ↔ operation = none := by
  cases operation with
  | none => simp [ofOperation]
  | some given => simp [ofOperation, Checked.bind_eq_ok, Functor.map, Checked.map_eq_ok]

theorem ofGroup_eq_ok_iff {parameters : List Contract.Parameter} {group : Group}
    {result : Option Schema} :
    ofGroup summary parameters group = .ok result ↔
      let members := sentTo group.location parameters
      members = [] ∧ none = result ∨ members ≠ [] ∧ ∃ properties,
        parameterProperties [] members = .ok properties ∧
          some (.object (some s!"{group.title} {summary}") properties (requiredNames members)
            group.additional) = result := by
  unfold ofGroup sentTo
  dsimp only
  split
  next empty => simp [List.isEmpty_iff.1 empty]
  next given =>
    rw [List.isEmpty_iff] at given
    simp [given, Functor.map, Checked.map_eq_ok]

theorem ofGroup_of_mem {parameters : List Contract.Parameter} {groups : List Group}
    {results : List (String × Option Schema)}
    (made : ofGroups summary parameters groups = .ok results) {group : Group}
    (member : group ∈ groups) :
    ∃ result, (group.field, result) ∈ results ∧
      ofGroup summary parameters group = .ok result := by
  induction groups generalizing results with
  | nil => cases member
  | cons first rest ih =>
      simp only [ofGroups, Checked.bind_eq_ok, Checked.pure_eq_ok] at made
      obtain ⟨result, firstMade, others, made, rfl⟩ := made
      rcases List.mem_cons.1 member with rfl | member
      · exact ⟨result, List.mem_cons_self, firstMade⟩
      · obtain ⟨result, inside, groupMade⟩ := ih made member
        exact ⟨result, List.mem_cons_of_mem _ inside, groupMade⟩

theorem group_of_ofGroups {parameters : List Contract.Parameter} {groups : List Group}
    {results : List (String × Option Schema)}
    (made : ofGroups summary parameters groups = .ok results) {field : String}
    (member : (field, some schema) ∈ results) :
    ∃ group ∈ groups, group.field = field ∧
      ofGroup summary parameters group = .ok (some schema) := by
  induction groups generalizing results with
  | nil =>
      cases made
      cases member
  | cons group rest ih =>
      simp only [ofGroups, Checked.bind_eq_ok, Checked.pure_eq_ok] at made
      obtain ⟨first, firstMade, others, made, rfl⟩ := made
      rcases List.mem_cons.1 member with same | member
      · cases same
        exact ⟨group, List.mem_cons_self, rfl, firstMade⟩
      · obtain ⟨found, inside, rest⟩ := ih made member
        exact ⟨found, List.mem_cons_of_mem _ inside, rest⟩

theorem names_ofGroups {parameters : List Contract.Parameter} {groups : List Group}
    {results : List (String × Option Schema)}
    (success : ofGroups summary parameters groups = .ok results) :
    results.map Prod.fst = groups.map Group.field := by
  induction groups generalizing results with
  | nil =>
      cases success
      rfl
  | cons group rest ih =>
      simp only [ofGroups, Checked.bind_eq_ok, Checked.pure_eq_ok] at success
      obtain ⟨first, _, others, success, rfl⟩ := success
      rw [List.map_cons, List.map_cons, ih success]

/-- The fields of an operation have distinct names. -/
theorem nodup_operationFields {parameters : List Contract.Parameter}
    {results : List (String × Option Schema)} {body responses : Option Schema}
    (success : ofGroups summary parameters groups = .ok results) :
    ((("requestBody", body) :: results ++ [("responses", responses)]).map Prod.fst).Nodup := by
  rw [List.map_append, List.map_cons, names_ofGroups success]
  simp [groups]

end Schema

end RouteTypes
