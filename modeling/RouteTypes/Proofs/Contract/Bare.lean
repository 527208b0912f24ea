import RouteTypes.RouteFilter
import RouteTypes.Schema

/-!
# Contracts without extras

Whatever a document holds besides its declared fields is kept as extras. Neither the tree of a
contract depends on them (`ofDocument_bare`), nor the parameters that are warned of
(`untyped_bare`), nor which routes rules keep (`narrow_bare`).
-/

namespace RouteTypes

namespace Contract

/-! ## Leaving out the extras -/

/-- Values that may be absent, in another view. -/
def viewValues {α β : Type} (view : α → β) :
    List (String × Option α) → List (String × Option β) :=
  List.map (Prod.map id (Option.map view))

def MediaType.bare (media : MediaType) : MediaType := { media with extras := [] }

def Body.bare (body : Body) : Body :=
  { body with content := body.content.map (viewValues MediaType.bare), extras := [] }

def Parameter.bare (parameter : Parameter) : Parameter :=
  { parameter with content := parameter.content.map (viewValues MediaType.bare), extras := [] }

def Operation.bare (operation : Operation) : Operation :=
  { operation with
    parameters := operation.parameters.map Parameter.bare
    requestBody := operation.requestBody.map Body.bare
    responses := operation.responses.map (viewValues Body.bare)
    extras := [] }

def PathItem.bare (item : PathItem) : PathItem :=
  ⟨item.operations.map (Prod.map id (Option.map Operation.bare)), []⟩

def Info.bare (info : Info) : Info := { info with extras := [] }

/-- The document without extras at any level. -/
def Document.bare (document : Document) : Document :=
  { document with
    info := document.info.bare
    paths := viewValues PathItem.bare document.paths
    extras := [] }

theorem get?_map {κ α β : Type} [BEq κ] (view : α → β) (fields : List (κ × α)) (name : κ) :
    Fields.get? (fields.map (Prod.map id view)) name = (Fields.get? fields name).map view := by
  simp [Fields.get?, List.find?_map, Function.comp_def]

/-! ## Schemas -/

@[simp] theorem contentSchema?_bare (content : Option (List (String × Option MediaType))) :
    contentSchema? (content.map (viewValues MediaType.bare)) = contentSchema? content := by
  cases content with
  | none => rfl
  | some media =>
      simp only [contentSchema?, Option.map_some, viewValues, get?_map]
      cases Fields.get? media jsonMediaType with
      | none => rfl
      | some found => cases found <;> rfl

@[simp] theorem Body.schema?_bare (body : Body) : body.bare.schema? = body.schema? :=
  contentSchema?_bare body.content

@[simp] theorem Parameter.schema?_bare (parameter : Parameter) :
    parameter.bare.schema? = parameter.schema? := by
  simp [Parameter.schema?, bare]

/-- Rules select the same routes with and without extras. -/
@[simp] theorem narrow_bare (document : Document) (rules : List Rule) :
    (document.narrow (some (.rules rules))).bare = document.bare.narrow (some (.rules rules)) := by
  unfold Document.narrow
  dsimp only
  split
  next => rfl
  next =>
    simp only [Document.bare, viewValues, List.filter_map]
    rfl

theorem routes_bare (document : Document) :
    document.bare.paths.map Prod.fst = document.paths.map Prod.fst := by
  simp [Document.bare, viewValues, Function.comp_def]

end Contract

namespace Schema

open Contract

theorem children_map {κ α β : Type} (name : κ → String)
    (schemaOf : κ → β → Checked (Option Schema)) (view : α → β) (items : List (κ × α)) :
    children name schemaOf (items.map (Prod.map id view)) =
      children name (fun key item => schemaOf key (view item)) items := by
  induction items with
  | nil => rfl
  | cons item rest ih =>
      simp only [List.map_cons, Prod.map, id_eq, children, ih]

@[simp] theorem ofBody_bare (fallback : String) (body : Option Body) :
    ofBody fallback (body.map Body.bare) = ofBody fallback body := by
  cases body with
  | none => rfl
  | some body =>
      simp only [ofBody, Option.map_some, Body.schema?_bare]
      rfl

@[simp] theorem parameterProperties_bare (properties : List (String × Schema))
    (parameters : List Parameter) :
    parameterProperties properties (parameters.map Parameter.bare) =
      parameterProperties properties parameters := by
  induction parameters generalizing properties with
  | nil => rfl
  | cons parameter rest ih =>
      simp only [List.map_cons, parameterProperties, Parameter.schema?_bare, ih]
      rfl

@[simp] theorem requiredNames_bare (parameters : List Parameter) :
    requiredNames (parameters.map Parameter.bare) = requiredNames parameters := by
  simp [requiredNames, List.filter_map, Function.comp_def, Parameter.bare]

@[simp] theorem ofGroup_bare (summary : String) (parameters : List Parameter) (group : Group) :
    ofGroup summary (parameters.map Parameter.bare) group = ofGroup summary parameters group := by
  have members : (parameters.map Parameter.bare).filter
        (fun parameter => parameter.location = group.location) =
      (parameters.filter fun parameter => parameter.location = group.location).map
        Parameter.bare := by
    rw [List.filter_map]
    rfl
  simp only [ofGroup, members, List.isEmpty_map, parameterProperties_bare, requiredNames_bare]

@[simp]
theorem ofGroups_bare (summary : String) (parameters : List Parameter) (groups : List Group) :
    ofGroups summary (parameters.map Parameter.bare) groups =
      ofGroups summary parameters groups := by
  induction groups with
  | nil => rfl
  | cons group rest ih => simp only [ofGroups, ofGroup_bare, ih]

@[simp] theorem ofResponses_bare (summary : String)
    (responses : Option (List (String × Option Body))) :
    ofResponses summary (responses.map (viewValues Body.bare)) =
      ofResponses summary responses := by
  cases responses with
  | none => rfl
  | some responses =>
      simp only [ofResponses, Option.map_some, viewValues, children_map, ofBody_bare]

@[simp] theorem ofOperation_bare (route : String) (method : Method) (operation : Option Operation) :
    ofOperation route method (operation.map Operation.bare) =
      ofOperation route method operation := by
  cases operation with
  | none => rfl
  | some operation =>
      simp only [ofOperation, Option.map_some, Operation.bare, ofBody_bare, ofGroups_bare,
        ofResponses_bare]

@[simp] theorem ofPathItem_bare (route : String) (item : Option PathItem) :
    ofPathItem route (item.map PathItem.bare) = ofPathItem route item := by
  cases item with
  | none => rfl
  | some item =>
      simp only [ofPathItem, Option.map_some, PathItem.bare, children_map, ofOperation_bare,
        List.isEmpty_map]

/-- The tree of a contract does not depend on its extras. -/
@[simp] theorem ofDocument_bare (document : Document) :
    ofDocument document.bare = ofDocument document := by
  simp only [ofDocument, Document.bare, viewValues, children_map, ofPathItem_bare]

end Schema

namespace UntypedParameter

open Contract

@[simp] theorem ofOperation_bare (route : String) (method : Method) (operation : Operation) :
    ofOperation route method operation.bare = ofOperation route method operation := by
  simp [ofOperation, Operation.bare, List.filter_map, Function.comp_def, Parameter.bare,
    Parameter.schema?]

@[simp] theorem ofPathItem_bare (route : String) (item : PathItem) :
    ofPathItem route item.bare = ofPathItem route item := by
  simp only [ofPathItem, PathItem.bare, List.flatMap_map]
  congr 1
  funext entry
  obtain ⟨method, _ | operation⟩ := entry
  · rfl
  · exact ofOperation_bare route method operation

/-- The parameters of a contract that are warned of do not depend on its extras. -/
@[simp]
theorem untyped_bare (document : Document) : ofDocument document.bare = ofDocument document := by
  simp only [ofDocument, Document.bare, viewValues, List.flatMap_map]
  congr 1
  funext entry
  obtain ⟨route, _ | item⟩ := entry
  · rfl
  · exact ofPathItem_bare route item

end UntypedParameter

/-- Contracts that are the same without extras have the same tree, and the same parameters of theirs
are warned of. -/
theorem eq_of_bare {contract other : Contract.Document} (same : contract.bare = other.bare) :
    Schema.ofDocument contract = Schema.ofDocument other ∧
      UntypedParameter.ofDocument contract = UntypedParameter.ofDocument other := by
  constructor
  · rw [← Schema.ofDocument_bare, same, Schema.ofDocument_bare]
  · rw [← UntypedParameter.untyped_bare, same, UntypedParameter.untyped_bare]

end RouteTypes
