import RouteTypes.Proofs.Schema.Bodies

/-!
# Groups of parameters in the schema of an operation

The parameters of an operation stand in one list, wherever they are sent. In the tree there is a
group for each place that any of them is sent to, and what is in it depends on the parameters of
this place alone, and on their order (`groups_of_operation`). A group requires the names of the
required parameters, as often as they stand there. A property it has only once for each name, at
the place of the first parameter of the name with a schema, and with the schema of the last one.
-/

namespace RouteTypes

namespace Contract

/-- The schema of a parameter: its own, or else that of its content for JSON. -/
inductive Parameter.Holds (parameter : Parameter) (fields : Fields) : Prop where
  | own (schema : parameter.schema = some fields)
  | json {content : List (String × Option MediaType)} {media : MediaType}
      (none : parameter.schema = none) (given : parameter.content = some content)
      (typed : Fields.get? content "application/json" = some (some media))
      (schema : media.schema = some fields)

/-- A parameter has a schema of its own, or its content has one for JSON. -/
def Parameter.HasSchema (parameter : Parameter) : Bool :=
  parameter.schema.isSome || parameter.content.any fun content =>
    (Fields.get? content "application/json").join.any fun media => media.schema.isSome

/-- The schema is that of the last parameter of this name that has one. -/
inductive LastSchema (name : String) : List Parameter → Fields → Prop where
  | here {parameter : Parameter} {rest : List Parameter} {fields : Fields}
      (named : parameter.name = name) (holds : parameter.Holds fields)
      (last : ∀ other ∈ rest, other.name = name → other.HasSchema = false) :
      LastSchema name (parameter :: rest) fields
  | later {parameter : Parameter} {rest : List Parameter} {fields : Fields}
      (last : LastSchema name rest fields) : LastSchema name (parameter :: rest) fields

/-- The field of an operation for the parameters that are sent to a place. -/
def Location.field : Location → String
  | .header => "headers"
  | .query => "queryParams"
  | .path => "pathParams"
  | .cookie => "cookies"

variable {parameter : Parameter} {fields : Fields}

@[simp] theorem lastSchema_cons {name : String} {rest : List Parameter} :
    LastSchema name (parameter :: rest) fields ↔ LastSchema name rest fields ∨
      parameter.name = name ∧ parameter.Holds fields ∧
        ∀ other ∈ rest, other.name = name → other.HasSchema = false := by
  constructor
  · rintro (⟨named, holds, last⟩ | ⟨last⟩)
    · exact .inr ⟨named, holds, last⟩
    · exact .inl last
  · rintro (last | ⟨named, holds, last⟩)
    · exact .later last
    · exact .here named holds last

theorem Parameter.schema?_eq_some : parameter.schema? = some fields ↔ parameter.Holds fields := by
  rw [Parameter.schema?, Option.or_eq_some_iff, contentSchema?_eq_some]
  constructor
  · rintro (schema | ⟨none, content, media, given, typed, schema⟩)
    · exact .own schema
    · exact .json none given typed schema
  · rintro (schema | ⟨none, given, typed, schema⟩)
    · exact .inl schema
    · exact .inr ⟨none, _, _, given, typed, schema⟩

theorem isSome_contentSchema? (content : Option (List (String × Option MediaType))) :
    (contentSchema? content).isSome = content.any fun given =>
      (Fields.get? given "application/json").join.any fun media => media.schema.isSome := by
  cases content with
  | none => rfl
  | some given =>
      rw [contentSchema?, jsonMediaType, Option.any_some]
      rcases Fields.get? given "application/json" with _ | _ | media <;> rfl

theorem Parameter.isSome_schema? (parameter : Parameter) :
    parameter.schema?.isSome = parameter.HasSchema := by
  rw [Parameter.schema?, Option.isSome_or, isSome_contentSchema?, HasSchema]

theorem Parameter.schema?_eq_none : parameter.schema? = none ↔ parameter.HasSchema = false := by
  rw [← Parameter.isSome_schema?, Option.isSome_eq_false_iff, Option.isNone_iff_eq_none]

end Contract

namespace Schema

open Contract (sentTo)

/-! ## The properties of a group -/

theorem eraseDups_of_nodup {names : List String} (distinct : names.Nodup) :
    names.eraseDups = names := by
  induction names with
  | nil => rfl
  | cons name rest ih =>
      rw [List.nodup_cons] at distinct
      have others : (rest.filter fun other => !other == name) = rest := by
        rw [List.filter_eq_self]
        intro other member
        simpa using fun same : other = name => distinct.1 (same ▸ member)
      rw [List.eraseDups_cons, others, ih distinct.2]

section

variable {parameters : List Contract.Parameter} {before results : List (String × Schema)}

/-- The properties of a group stand in the order of the first parameters of their names. -/
theorem names_parameterProperties (distinct : (before.map Prod.fst).Nodup)
    (made : parameterProperties before parameters = .ok results) :
    results.map Prod.fst = (before.map Prod.fst ++
      (parameters.filter (·.HasSchema)).map (·.name)).eraseDups := by
  induction parameters generalizing before with
  | nil =>
      cases made
      rw [List.filter_nil, List.map_nil, List.append_nil, eraseDups_of_nodup distinct]
  | cons parameter rest ih =>
      have typed := parameter.isSome_schema?
      cases own : parameter.schema? with
      | none =>
          rw [parameterProperties, own] at made
          rw [own] at typed
          rw [ih distinct made, List.filter_cons_of_neg (by simp [← typed])]
      | some fields =>
          simp only [parameterProperties, own, Checked.bind_eq_ok] at made
          obtain ⟨schema, _, made⟩ := made
          rw [own] at typed
          rw [ih (Fields.nodup_put distinct _) made, List.filter_cons_of_pos (by simp [← typed]),
            List.map_cons, Fields.names_put]
          split
          next member => simp [List.eraseDups_append, List.cons_removeAll, member]
          next => rw [List.append_assoc, List.singleton_append]

variable {name : String} {schema : Schema}

/-- A property of a group is the schema of the last parameter of its name that has one, and where
there is none it is as before. -/
theorem get?_parameterProperties (made : parameterProperties before parameters = .ok results) :
    Fields.get? results name = some schema ↔
      (∃ fields, Contract.LastSchema name parameters fields ∧
        fragmentOf fields (Fields.get? fields "description") = .ok schema) ∨
      (∀ parameter ∈ parameters, parameter.name = name → parameter.HasSchema = false) ∧
        Fields.get? before name = some schema := by
  induction parameters generalizing before with
  | nil =>
      cases made
      constructor
      · exact fun found => .inr ⟨List.forall_mem_nil _, found⟩
      · rintro (⟨_, ⟨⟩, _⟩ | ⟨_, found⟩)
        exact found
  | cons parameter rest ih =>
      cases own : parameter.schema? with
      | none =>
          rw [parameterProperties, own] at made
          have untyped := Contract.Parameter.schema?_eq_none.1 own
          have none (fields : Fields) : ¬parameter.Holds fields := by
            rw [← Contract.Parameter.schema?_eq_some, own]
            exact Option.some_ne_none fields ∘ Eq.symm
          simp [ih made, Contract.lastSchema_cons, none, untyped]
      | some fields =>
          simp only [parameterProperties, own, Checked.bind_eq_ok] at made
          obtain ⟨first, built, made⟩ := made
          have holds := Contract.Parameter.schema?_eq_some.1 own
          have typed : parameter.HasSchema = true := by
            rw [← Contract.Parameter.isSome_schema?, own]
            rfl
          simp only [ih made, Fields.get?_put, Contract.lastSchema_cons, List.forall_mem_cons]
          by_cases named : parameter.name = name
          · simp only [named, typed, beq_self_eq_true, if_true]
            constructor
            · rintro (⟨given, last, described⟩ | ⟨last, ⟨⟩⟩)
              · exact .inl ⟨given, .inl last, described⟩
              · exact .inl ⟨fields, .inr ⟨trivial, holds, last⟩, built⟩
            · rintro (⟨given, last | ⟨_, alsoHolds, last⟩, described⟩ | ⟨⟨impossible, _⟩, _⟩)
              · exact .inl ⟨given, last, described⟩
              · cases own.symm.trans (Contract.Parameter.schema?_eq_some.2 alsoHolds)
                cases built.symm.trans described
                exact .inr ⟨last, rfl⟩
              · cases impossible trivial
          · simp [named]

end

/-! ## Schemas of parameters -/

/-- How the schema of a parameter is written: unchanged, unless its description is null or is given
as bytes. A null is left out, and bytes stand as the text that they encode. -/
inductive Written (fields : Fields) : Fields → Prop where
  | kept (texts : ∀ value, Fields.get? fields "description" = some value →
      ∃ text, value = .text text) : Written fields fields
  | dropped (null : Fields.get? fields "description" = some .null) :
      Written fields (fields.filter fun field => field.1 ≠ "description")
  | decoded {bytes : Bytes} {text : List Char}
      (own : Fields.get? fields "description" = some (.scalar (.bytes bytes)))
      (decoded : Utf8.decode bytes = .ok text) :
      Written fields (Fields.put fields "description" (.text (String.ofList text)))

theorem describe_none (fields : Fields) :
    describe fields none = fields.filter fun field => field.1 ≠ "description" := by
  rw [describe, Fields.erase]
  exact List.filter_congr fun field _ => by rw [decide_not, beq_eq_decide]

theorem describe_none_of_absent {fields : Fields}
    (absent : Fields.get? fields "description" = none) : describe fields none = fields := by
  rw [describe_none, List.filter_eq_self]
  intro field member
  rw [Fields.get?_eq_none_iff] at absent
  simpa using fun same : field.1 = "description" => absent (same ▸ List.mem_map_of_mem member)

/-- A schema is written as the fragment that is made of it. -/
theorem written_iff {fields written : Fields} :
    Written fields written ↔ ∃ schema,
      fragmentOf fields (Fields.get? fields "description") = .ok schema ∧
        schema.toFields = written := by
  simp only [fragmentOf_iff, descriptionOf_eq_ok]
  constructor
  · rintro (texts | null | ⟨own, decoded⟩)
    · cases given : Fields.get? fields "description" with
      | none => exact ⟨_, ⟨none, .inl ⟨rfl, rfl⟩, rfl⟩, describe_none_of_absent given⟩
      | some value =>
          obtain ⟨text, rfl⟩ := texts value given
          refine ⟨_, ⟨some text, .inr ⟨_, text, rfl, .text text, rfl⟩, rfl⟩, ?_⟩
          exact Fields.put_of_get? given
    · rw [null]
      exact ⟨_, ⟨none, .inl ⟨rfl, rfl⟩, rfl⟩, describe_none fields⟩
    · rw [own]
      exact ⟨_, ⟨some _, .inr ⟨_, _, rfl, .bytes decoded, rfl⟩, rfl⟩, rfl⟩
  · rintro ⟨_, ⟨description, ⟨absent, rfl⟩ | ⟨value, text, given, reads, rfl⟩, rfl⟩, rfl⟩
    · rw [toFields]
      cases given : Fields.get? fields "description" with
      | none =>
          rw [describe_none_of_absent given]
          exact .kept (by simp [given])
      | some value =>
          have null : value = .null := by
            by_contra notNull
            rw [present?_eq_some.2 ⟨given, notNull⟩] at absent
            cases absent
          subst null
          rw [describe_none]
          exact .dropped given
    · obtain ⟨found, _⟩ := present?_eq_some.1 given
      cases reads with
      | text =>
          rw [toFields, describe, Fields.put_of_get? found]
          exact .kept (by simp [found])
      | bytes decoded => exact .decoded found decoded

/-! ## Groups -/

variable {description : Option String} {properties : List (String × Schema)}
variable {required : List String} {additional : Bool} {summary : String}

@[simp] theorem at?_required :
    (object description properties required additional).toValue.at? ["required"] =
      some (.list (required.map .text)) := by
  cases description <;> simp [toValue, toFields, Value.at?_ofFields, Fields.get?_cons] <;> rfl

/-- A group of parameters in the JSON form of the tree: it requires the names of the required ones
in their order, and for each name with a schema it has the last one as a property. -/
structure GroupNode (members : List Contract.Parameter) (node : Value) : Prop where
  required : node.at? ["required"] =
    some (.list ((members.filter (·.required)).map fun parameter => .text parameter.name))
  names : node.KeysAt ["properties"] ((members.filter (·.HasSchema)).map (·.name)).eraseDups
  schemas : ∀ name shown, node.at? ["properties", name] = some shown ↔ ∃ fields written,
    Contract.LastSchema name members fields ∧ Written fields written ∧ .ofFields written = shown

theorem groupNode_of_ofGroup {members : List Contract.Parameter}
    (made : parameterProperties [] members = .ok properties) :
    GroupNode members
      (object description properties (requiredNames members) additional).toValue := by
  refine ⟨?_, ?_, ?_⟩
  · rw [at?_required, requiredNames, List.map_map]
    rfl
  · refine ⟨propertiesToFields properties, at?_properties [], ?_⟩
    rw [names_propertiesToFields, names_parameterProperties (by simp) made, List.map_nil,
      List.nil_append]
  · intro name shown
    rw [at?_properties, Value.at?_ofFields, get?_propertiesToFields]
    simp only [Option.bind_eq_some_iff, Option.map_eq_some_iff, get?_parameterProperties made,
      Fields.get?_nil, reduceCtorEq, and_false, or_false, written_iff]
    constructor
    · rintro ⟨_, ⟨schema, ⟨fields, last, built⟩, rfl⟩, ⟨⟩⟩
      exact ⟨fields, schema.toFields, last, ⟨schema, built, rfl⟩, rfl⟩
    · rintro ⟨fields, _, last, ⟨schema, built, rfl⟩, rfl⟩
      exact ⟨_, ⟨schema, ⟨fields, last, built⟩, rfl⟩, rfl⟩

/-! ## Operations -/

variable {route : String} {method : Contract.Method} {operation : Contract.Operation}
variable {schema : Schema}

theorem field_of_mem {group : Group} (member : group ∈ groups) :
    group.field = group.location.field := by
  simp only [groups, List.mem_cons, List.not_mem_nil, or_false] at member
  rcases member with rfl | rfl | rfl | rfl <;> rfl

/-- The groups do not depend on how the parameters of different places are mixed. -/
theorem ofGroups_congr {parameters others : List Contract.Parameter}
    (same : ∀ location, sentTo location parameters = sentTo location others)
    (groups : List Group) :
    ofGroups summary parameters groups = ofGroups summary others groups := by
  induction groups with
  | nil => rfl
  | cons group rest ih =>
      have first : ofGroup summary parameters group = ofGroup summary others group := by
        have members := same group.location
        unfold sentTo at members
        unfold ofGroup
        rw [members]
      rw [ofGroups, ofGroups, first, ih]

/-- The field of an operation for a place holds the group for it. -/
theorem at?_group (made : ofOperation route method (some operation) = .ok (some schema))
    (location : Contract.Location) :
    ∃ group result, group.location = location ∧
      ofGroup (summaryOf method route) operation.parameters group = .ok result ∧
      ∀ node, schema.toValue.at? ["properties", location.field] = some node ↔
        ∃ inner, result = some inner ∧ inner.toValue = node := by
  obtain ⟨_, body, results, responses, ⟨⟩, _, groupsMade, _, rfl⟩ := ofOperation_eq_some.1 made
  obtain ⟨group, known, rfl⟩ := exists_group location
  obtain ⟨result, inside, groupMade⟩ := ofGroup_of_mem groupsMade known
  refine ⟨group, result, rfl, groupMade, ?_⟩
  intro node
  rw [← field_of_mem known, at?_present (nodup_operationFields groupsMade)
    (List.mem_append_left _ (List.mem_cons_of_mem _ inside))]
  simp only [Value.at?, Option.some_inj]

/-- The group for a place is there and holds the parameters that are sent to it, unless there are
none. -/
theorem group_cases (made : ofOperation route method (some operation) = .ok (some schema))
    (location : Contract.Location) :
    sentTo location operation.parameters = [] ∧
        schema.toValue.at? ["properties", location.field] = none ∨
      sentTo location operation.parameters ≠ [] ∧ ∃ node,
        schema.toValue.at? ["properties", location.field] = some node ∧
          GroupNode (sentTo location operation.parameters) node := by
  obtain ⟨group, result, rfl, groupMade, shown⟩ := at?_group made location
  rcases ofGroup_eq_ok_iff.1 groupMade with ⟨empty, rfl⟩ | ⟨some, properties, propertiesMade, rfl⟩
  · refine .inl ⟨empty, Option.eq_none_iff_forall_ne_some.2 ?_⟩
    intro node found
    obtain ⟨_, ⟨⟩, _⟩ := (shown node).1 found
  · exact .inr ⟨some, _, (shown _).2 ⟨_, rfl, rfl⟩, groupNode_of_ofGroup propertiesMade⟩

theorem sent_ne_nil {location : Contract.Location} :
    sentTo location operation.parameters ≠ [] ↔
      ∃ parameter ∈ operation.parameters, parameter.location = location := by
  simp [sentTo]

/-- The parameters of an operation are grouped by the places that they are sent to. There is a group
for a place where there are any, it holds them in their order, and the operation is the same however
the parameters of different places are mixed. -/
theorem groups_of_operation
    (made : ofOperation route method (some operation) = .ok (some schema)) :
    (∀ location : Contract.Location,
      ((∃ node, schema.toValue.at? ["properties", location.field] = some node) ↔
        ∃ parameter ∈ operation.parameters, parameter.location = location) ∧
      ∀ node, schema.toValue.at? ["properties", location.field] = some node →
        GroupNode (sentTo location operation.parameters) node) ∧
    ∀ parameters,
      (∀ location, sentTo location parameters = sentTo location operation.parameters) →
        ofOperation route method (some { operation with parameters }) = .ok (some schema) := by
  constructor
  · intro location
    rw [← sent_ne_nil]
    rcases group_cases made location with ⟨empty, absent⟩ | ⟨some, node, shown, group⟩
    · simp [empty, absent]
    · simp [some, shown, group]
  · intro parameters same
    obtain ⟨_, body, results, responses, ⟨⟩, bodyMade, groupsMade, responsesMade, isSchema⟩ :=
      ofOperation_eq_some.1 made
    exact ofOperation_eq_some.2 ⟨_, body, results, responses, rfl, bodyMade,
      (ofGroups_congr same groups).trans groupsMade, responsesMade, isSchema⟩

/-- An operation with a parameter of one name in two places, one of which it is given twice. -/
def asking : Contract.Operation where
  description := none
  parameters :=
    [⟨"id", .query, true, none, some [("type", .text "string")], none, []⟩,
     ⟨"id", .header, false, none, some [("type", .text "integer")], none, []⟩,
     ⟨"page", .query, true, none, none, none, []⟩,
     ⟨"id", .query, true, none, some [("type", .text "number"), ("description", .null)], none, []⟩]
  requestBody := none
  responses := none
  extras := []

/-- The query of `asking` requires a name twice and one without a property, and the property is that
of the last parameter. -/
theorem groups_of_operation_asking :
    ∃ schema node, ofOperation "/n" .get (some asking) = .ok (some schema) ∧
      schema.toValue.at? ["properties", "queryParams"] = some node ∧
      node.at? ["required"] = some (.list [.text "id", .text "page", .text "id"]) ∧
      node.KeysAt ["properties"] ["id"] ∧
      node.at? ["properties", "id"] = some (.ofFields [("type", .text "number")]) ∧
      ofOperation "/n" .get (some { asking with
          parameters := (sentTo .query asking.parameters ++ sentTo .header asking.parameters) }) =
        .ok (some schema) := by
  have made : ofOperation "/n" .get (some asking) = .ok (some (.closed (some "GET /n")
      [("headers", .object (some "Headers for GET /n")
          [("id", .fragment [("type", .text "integer")] none)] [] true),
        ("queryParams", .object (some "Query params for GET /n")
          [("id", .fragment [("type", .text "number"), ("description", .null)] none)]
          ["id", "page", "id"] false)])) := by cbv
  obtain ⟨groups, mixed⟩ := groups_of_operation made
  obtain ⟨node, shown⟩ := (groups .query).1.2 ⟨_, List.mem_cons_self, rfl⟩
  have group := (groups .query).2 node shown
  have last : Contract.LastSchema "id" (sentTo .query asking.parameters)
      [("type", .text "number"), ("description", .null)] :=
    .later (.later (.here rfl (.own rfl) (List.forall_mem_nil _)))
  refine ⟨_, node, made, shown, group.required, group.names, ?_, ?_⟩
  · exact (group.schemas "id" _).2 ⟨_, _, last, .dropped rfl, rfl⟩
  · refine mixed _ ?_
    intro location
    cases location <;> rfl

/-- A contract with the given parameters, as a document. -/
def inquire (parameters : List Value) : Value :=
  .mapping [(.text "openapi", .text "3.0.0"),
    (.text "paths", .mapping [(.text "/n", .mapping [(.text "get", .mapping
      [(.text "parameters", .list parameters)])])])]

/-- The contract with the given parameters once it is checked. -/
def inquiring (parameters : List Contract.Parameter) : Contract.Document where
  openapi := "3.0.0"
  info := Contract.Info.default
  paths := [("/n", some
    { operations := [(.get, some
        { description := none
          parameters := parameters
          requestBody := none
          responses := none
          extras := [] })]
      extras := [] })]
  components := none
  extras := []

/-- A parameter whose description is given as bytes. -/
def encodedParameter : Contract.Parameter :=
  ⟨"q", .query, false, none, some encodedFields, none, []⟩

/-- A description that is given as bytes is no null, and yet the schema of the parameter does not
stay as it is. -/
theorem encoded_parameter_replaced :
    Contract.checkDocument (inquire [.mapping [(.text "name", .text "q"),
        (.text "in", .text "query"), (.text "schema", .ofFields encodedFields)]]) =
      .ok (inquiring [encodedParameter]) ∧
    ∃ tree, ofDocument (inquiring [encodedParameter]) = .ok tree ∧
      tree.toValue.at? (operationPath "/n" .get ++
          ["properties", "queryParams", "properties", "q"]) =
        some (.ofFields [("description", .text "hi")]) ∧
      Value.ofFields [("description", .text "hi")] ≠ .ofFields encodedFields := by
  have built : ofDocument (inquiring [encodedParameter]) =
      .ok (.closed none [("/n", .closed none [("get", .closed (some "GET /n")
        [("queryParams", .object (some "Query params for GET /n")
          [("q", .fragment encodedFields (some "hi"))] [] false)])])]) := by cbv
  refine ⟨by cbv, _, built, rfl, ?_⟩
  intro impossible
  cases impossible

end Schema

end RouteTypes
