import Mathlib
import RouteTypes.Contract.Validation
import RouteTypes.Proofs.Check.Agreement
import RouteTypes.Proofs.Contract.Bare
import RouteTypes.Proofs.Value.Entries

/-!
# Keys that are not declared

Records of a contract document may hold text keys that their kind does not declare. Whatever stands
under such keys, and wherever they stand, the document is accepted or not for the same reasons, and
what is made of its contract is the same (`checkDocument_of_differs`).
-/

namespace RouteTypes.Contract

open Check
open Checked (Agree)

/-! ## Places of a document -/

/-- The kinds of records in a contract document. -/
inductive Kind where
  | document
  | info
  | pathItem
  | operation
  | parameter
  | body
  | mediaType

/-- How a part of a contract document is checked: as a record, as a mapping whose values are parts,
or as a list of parts. -/
inductive Shape where
  | record (kind : Kind)
  | entries (shape : Shape)
  | items (shape : Shape)

namespace Kind

/-- The names that a kind of records declares. -/
def names : Kind → List String
  | .document => ["openapi", "info", "paths", "components"]
  | .info => ["title", "version", "description"]
  | .pathItem => "operations" :: Method.names.map Prod.fst
  | .operation => ["description", "parameters", "requestBody", "request_body", "responses"]
  | .parameter =>
    ["name", "in", "location", "required", "description", "schema", "schema_", "content"]
  | .body => ["description", "content"]
  | .mediaType => ["schema", "schema_"]

/-- The declared names whose values hold records, and how these values are checked. -/
def parts : Kind → List (String × Shape)
  | .document => [("info", .record .info), ("paths", .entries (.record .pathItem))]
  | .info => []
  | .pathItem => ("operations", .entries (.record .operation)) ::
      Method.names.map fun method => (method.1, .record .operation)
  | .operation =>
    [("parameters", .items (.record .parameter)), ("requestBody", .record .body),
     ("request_body", .record .body), ("responses", .entries (.record .body))]
  | .parameter => [("content", .entries (.record .mediaType))]
  | .body => [("content", .entries (.record .mediaType))]
  | .mediaType => []

/-- A key counts for a kind of records: it is declared, or not a text. -/
def counts (kind : Kind) : Scalar → Bool
  | .text name => kind.names.contains name
  | _ => true

end Kind

/-- Two values of a shape differ at one place of this shape, and there only in text keys that are
not declared. -/
inductive Differs : Shape → Value → Value → Prop where
  | keys {kind : Kind} {left right : Entries}
      (same : left.filter (kind.counts ·.1) = right.filter (kind.counts ·.1)) :
      Differs (.record kind) (.mapping left) (.mapping right)
  | field {kind : Kind} {name : String} {shape : Shape} {front back : Entries}
      {left right : Value} (declared : (name, shape) ∈ kind.parts)
      (inner : Differs shape left right) :
      Differs (.record kind) (.mapping (front ++ (.text name, left) :: back))
        (.mapping (front ++ (.text name, right) :: back))
  | entry {shape : Shape} {key : Scalar} {front back : Entries} {left right : Value}
      (inner : Differs shape left right) :
      Differs (.entries shape) (.mapping (front ++ (key, left) :: back))
        (.mapping (front ++ (key, right) :: back))
  | item {shape : Shape} {front back : List Value} {left right : Value}
      (inner : Differs shape left right) :
      Differs (.items shape) (.list (front ++ left :: back)) (.list (front ++ right :: back))
  | component {shape : Shape} {front back : List Value} {left right : Value}
      (inner : Differs shape left right) :
      Differs (.items shape) (.tuple (front ++ left :: back)) (.tuple (front ++ right :: back))

/-! ## Agreement of checks -/

/-- The checks of a kind of records agree on two values up to extras. -/
def Kind.ChecksAgree : Kind → Value → Value → Prop
  | .document, left, right => Agree Document.bare (checkDocument left) (checkDocument right)
  | .info, left, right => Agree Info.bare (checkInfo left) (checkInfo right)
  | .pathItem, left, right => Agree PathItem.bare (checkPathItem left) (checkPathItem right)
  | .operation, left, right => Agree Operation.bare (checkOperation left) (checkOperation right)
  | .parameter, left, right => Agree Parameter.bare (checkParameter left) (checkParameter right)
  | .body, left, right => Agree Body.bare (checkBody left) (checkBody right)
  | .mediaType, left, right => Agree MediaType.bare (checkMediaType left) (checkMediaType right)

/-- Values of a shape are composed in the same way of records on which the checks agree. -/
def Shape.Agrees : Shape → Value → Value → Prop
  | .record kind, left, right =>
    left.isNull = false ∧ right.isNull = false ∧ kind.ChecksAgree left right
  | .entries shape, left, right => ∃ entries others, left = .mapping entries ∧
      right = .mapping others ∧ List.Forall₂ (fun entry other => entry.1 = other.1 ∧
        (entry.2 = other.2 ∨ shape.Agrees entry.2 other.2)) entries others
  | .items shape, left, right => ∃ items others,
      List.Forall₂ (fun item other => item = other ∨ shape.Agrees item other) items others ∧
        (left = .list items ∧ right = .list others ∨ left = .tuple items ∧ right = .tuple others)

/-- Values under a key of a record are the same, or agree as the parts that they are. -/
def Kind.SamePart (kind : Kind) (key : Scalar) (left right : Value) : Prop :=
  left = right ∨ ∃ name shape, key = .text name ∧ (name, shape) ∈ kind.parts ∧
    shape.Agrees left right

/-- Records of a kind have the same keys that count, in this order, with values that agree. -/
def Kind.Alike (kind : Kind) (left right : Entries) : Prop :=
  List.Forall₂ (fun entry other => entry.1 = other.1 ∧ kind.SamePart entry.1 entry.2 other.2)
    (left.filter (kind.counts ·.1)) (right.filter (kind.counts ·.1))

variable {kind : Kind} {left right : Entries} {α β : Type} {view : α → β}
variable {names : List String} {name : String}

theorem get?_filter_counts (declared : name ∈ kind.names) (entries : Entries) :
    Entries.get? (entries.filter (kind.counts ·.1)) (.text name) =
      Entries.get? entries (.text name) := by
  induction entries with
  | nil => rfl
  | cons entry rest ih =>
      rw [List.filter_cons]
      split
      next => rw [Entries.get?_cons, Entries.get?_cons, ih]
      next drops =>
        have other : ¬entry.1.same (.text name) = true := by
          rw [Scalar.same_text]
          intro same
          exact drops (by simpa [same, Kind.counts] using declared)
        rw [Entries.get?_cons, if_neg other, ih]

/-- What stands under a text key of records whose keys and values agree. -/
theorem get?_cases
    (parts : List.Forall₂ (fun entry other => entry.1 = other.1 ∧
      kind.SamePart entry.1 entry.2 other.2) left right) (name : String) :
    (Entries.get? left (.text name) = none ∧ Entries.get? right (.text name) = none) ∨
      ∃ value other, Entries.get? left (.text name) = some value ∧
        Entries.get? right (.text name) = some other ∧
        kind.SamePart (.text name) value other := by
  induction parts with
  | nil => exact .inl ⟨rfl, rfl⟩
  | @cons entry other _ _ head _ ih =>
      rw [Entries.get?_cons, Entries.get?_cons, ← head.1]
      split
      next equal =>
        rw [Scalar.same_text] at equal
        exact .inr ⟨entry.2, other.2, rfl, rfl, equal ▸ head.2⟩
      next => exact ih

namespace Kind.Alike

theorem find?_cases (alike : kind.Alike left right) (declared : names ⊆ kind.names) :
    (find? left names = none ∧ find? right names = none) ∨
      ∃ name ∈ names, ∃ value other, find? left names = some (name, value) ∧
        find? right names = some (name, other) ∧ kind.SamePart (.text name) value other := by
  induction names with
  | nil => exact .inl ⟨rfl, rfl⟩
  | cons name rest ih =>
      rw [List.cons_subset] at declared
      have found := get?_cases alike name
      rw [get?_filter_counts declared.1, get?_filter_counts declared.1] at found
      unfold find? at ih ⊢
      rcases found with ⟨absent, alsoAbsent⟩ | ⟨value, other, found, alsoFound, same⟩
      · simp only [List.findSome?_cons, absent, alsoAbsent, Option.map_none]
        rcases ih declared.2 with none | ⟨later, member, rest⟩
        · exact .inl none
        · exact .inr ⟨later, .tail _ member, rest⟩
      · simp only [List.findSome?_cons, found, alsoFound, Option.map_some]
        exact .inr ⟨name, .head _, value, other, rfl, rfl, same⟩

/-- A field with values that agree. -/
theorem fieldOr (alike : kind.Alike left right) (default : α) (names : List String)
    (check : Value → Checked α) (declared : names ⊆ kind.names)
    (agree : ∀ name ∈ names, ∀ shape, (name, shape) ∈ kind.parts → ∀ value other,
      shape.Agrees value other → Agree view (check value) (check other)) :
    Agree view (Check.fieldOr default left names check)
      (Check.fieldOr default right names check) := by
  unfold Check.fieldOr
  rcases alike.find?_cases declared with
    ⟨absent, alsoAbsent⟩ | ⟨name, member, value, other, found, alsoFound, same⟩
  · rw [absent, alsoAbsent]
    exact .refl _
  · rw [found, alsoFound]
    rcases same with rfl | ⟨_, shape, ⟨⟩, part, agrees⟩
    · rfl
    · exact (agree name member shape part value other agrees).within _

/-- A field whose value is no part of the document. -/
theorem plain (alike : kind.Alike left right) (default : α) (names : List String)
    (check : Value → Checked α) (declared : names ⊆ kind.names)
    (noPart : ∀ name ∈ names, ∀ shape, (name, shape) ∉ kind.parts) :
    Agree id (Check.fieldOr default left names check)
      (Check.fieldOr default right names check) :=
  alike.fieldOr default names check declared fun name member shape part =>
    absurd part (noPart name member shape)

/-- A field that has to be there. -/
theorem field (alike : kind.Alike left right) (names : List String) (check : Value → Checked α)
    (declared : names ⊆ kind.names) (noPart : ∀ name ∈ names, ∀ shape, (name, shape) ∉ kind.parts) :
    Agree id (Check.field left names check) (Check.field right names check) := by
  unfold Check.field
  rcases alike.find?_cases declared with
    ⟨absent, alsoAbsent⟩ | ⟨name, member, value, other, found, alsoFound, same⟩
  · rw [absent, alsoAbsent]
    exact .refl _
  · rw [found, alsoFound]
    rcases same with rfl | ⟨_, shape, ⟨⟩, part, _⟩
    · rfl
    · exact absurd part (noPart name member shape)

end Kind.Alike

/-! ## Extras -/

/-- The key is a text. -/
def isText : Scalar → Bool
  | .text _ => true
  | _ => false

/-- The keys of entries that are no texts. -/
def oddKeys (entries : Entries) : List Scalar :=
  (entries.map Prod.fst).filter (!isText ·)

theorem extrasBeside_odd (used : List String) {key : Scalar} (odd : isText key = false)
    (value : Value) (rest : Entries) :
    extrasBeside used ((key, value) :: rest) =
      (Checked.both ((Checked.fail .key : Checked Unit).within (keyPart key))
        (extrasBeside used rest)).map Prod.snd := by
  cases key with
  | text name => cases odd
  | _ => rfl

theorem extrasBeside_text (used : List String) (name : String) (value : Value) (rest : Entries) :
    Agree (fun _ => ([] : Fields)) (extrasBeside used ((.text name, value) :: rest))
      (extrasBeside used rest) := by
  rw [extrasBeside]
  split
  next => exact .refl _
  next => cases extrasBeside used rest <;> rfl

/-- Only keys that are no texts are a problem of extras. -/
theorem extrasBeside_agree (used : List String) (entries : Entries) :
    Agree (fun _ => ([] : Fields)) (extrasBeside used entries)
      (extrasBeside [] ((oddKeys entries).map fun key => (key, .null))) := by
  induction entries with
  | nil => exact .refl _
  | cons entry rest ih =>
      obtain ⟨key, value⟩ := entry
      cases odd : isText key with
      | true =>
          have dropped : oddKeys ((key, value) :: rest) = oddKeys rest := by
            simp [oddKeys, odd]
          rw [dropped]
          cases key with
          | text name => exact (extrasBeside_text used name value rest).trans ih
          | _ => cases odd
      | false =>
          have kept : oddKeys ((key, value) :: rest) = key :: oddKeys rest := by
            simp [oddKeys, odd]
          rw [kept, List.map_cons, extrasBeside_odd used odd, extrasBeside_odd [] odd]
          have problem : Agree id ((Checked.fail .key : Checked Unit).within (keyPart key))
              ((Checked.fail .key).within (keyPart key)) := .refl _
          exact (problem.both ih).map _ Prod.snd fun _ => rfl

/-- Records that are alike have the same keys that are no texts. -/
@[simp] theorem oddKeys_filter (kind : Kind) (entries : Entries) :
    oddKeys (entries.filter (kind.counts ·.1)) = oddKeys entries := by
  unfold oddKeys
  rw [List.filter_map, List.filter_map, List.filter_filter]
  refine congrArg _ (List.filter_congr fun entry _ => ?_)
  obtain ⟨key, _⟩ := entry
  cases key <;> simp [isText, Kind.counts]

theorem Kind.Alike.oddKeys_eq (alike : kind.Alike left right) :
    oddKeys left = oddKeys right := by
  rw [← oddKeys_filter kind left, ← oddKeys_filter kind right, oddKeys, oddKeys]
  have keys : List.Forall₂ (· = ·) ((left.filter (kind.counts ·.1)).map Prod.fst)
      ((right.filter (kind.counts ·.1)).map Prod.fst) := by
    rw [List.forall₂_map_left_iff, List.forall₂_map_right_iff]
    exact alike.imp fun _ _ => And.left
  rw [List.forall₂_eq_eq_eq] at keys
  rw [keys]

/-- Extras of records with the same keys that are no texts have the same problems. -/
theorem extras_agree (same : oddKeys left = oddKeys right) (declared : List (List String)) :
    Agree (fun _ => ([] : Fields)) (extras left declared) (extras right declared) := by
  refine (extrasBeside_agree _ left).trans ?_
  rw [same]
  exact (extrasBeside_agree _ right).symm

/-! ## Kinds of records -/

/-- The values of mappings of one shape agree, where their parts do. -/
theorem mapping_agree_of_agrees {κ : Type} [BEq κ] {checkKey : Scalar → Checked κ} {shape : Shape}
    {check : Value → Checked α} {value other : Value}
    (agree : ∀ value other, shape.Agrees value other → Agree view (check value) (check other))
    (agrees : (Shape.entries shape).Agrees value other) :
    Agree (List.map (Prod.map id view)) (mapping checkKey check value)
      (mapping checkKey check other) := by
  obtain ⟨entries, others, rfl, rfl, parts⟩ := agrees
  refine mapping_agree (parts.imp fun entry other same => ⟨same.1, ?_⟩)
  rcases same.2 with equal | agrees
  · rw [equal]
    exact .refl _
  · exact agree _ _ agrees

theorem list_agree_of_agrees {shape : Shape} {check : Value → Checked α} {value other : Value}
    (agree : ∀ value other, shape.Agrees value other → Agree view (check value) (check other))
    (agrees : (Shape.items shape).Agrees value other) :
    Agree (List.map view) (Check.list check value) (Check.list check other) := by
  obtain ⟨items, others, parts, given⟩ := agrees
  have same : List.Forall₂ (fun item other => Agree view (check item) (check other)) items
      others := by
    refine parts.imp fun item other same => ?_
    rcases same with equal | agrees
    · rw [equal]
      exact .refl _
    · exact agree item other agrees
  have checks := Agree.all (itemsFrom_agree 0 same)
  rcases given with ⟨rfl, rfl⟩ | ⟨rfl, rfl⟩
  · exact checks
  · exact checks

theorem optional_agree_of_agrees {check : Value → Checked α} {value other : Value}
    (agree : kind.ChecksAgree value other → Agree view (check value) (check other))
    (agrees : (Shape.record kind).Agrees value other) :
    Agree (Option.map view) (optional check value) (optional check other) :=
  optional_agree agrees.1 agrees.2.1 (agree agrees.2.2)

theorem content_agree {value other : Value}
    (agrees : (Shape.entries (.record .mediaType)).Agrees value other) :
    Agree (Option.map (viewValues MediaType.bare)) (optional checkContent value)
      (optional checkContent other) := by
  have content : Agree (viewValues MediaType.bare) (checkContent value) (checkContent other) :=
    mapping_agree_of_agrees (fun _ _ => optional_agree_of_agrees id) agrees
  obtain ⟨entries, others, rfl, rfl, _⟩ := agrees
  exact optional_agree rfl rfl content

/-- Mappings of one shape keep it when their keys become texts. -/
theorem agrees_withTextKeys {shape : Shape} {value other : Value}
    (agrees : (Shape.entries shape).Agrees value other) :
    (Shape.entries shape).Agrees (withTextKeys value) (withTextKeys other) := by
  obtain ⟨entries, others, rfl, rfl, parts⟩ := agrees
  let related (value other : Value) : Prop := value = other ∨ shape.Agrees value other
  have shown : List.Forall₂ (fun left right => left.1 = right.1 ∧ related left.2 right.2)
      (entries.map fun entry => (textKey entry.1, entry.2))
      (others.map fun entry => (textKey entry.1, entry.2)) := by
    rw [List.forall₂_map_left_iff, List.forall₂_map_right_iff]
    exact parts.imp fun _ _ same => ⟨congrArg textKey same.1, same.2⟩
  exact ⟨_, _, rfl, rfl, Entries.forall₂_putAll .nil shown⟩

theorem hasShowableKeys_of_agrees {shape : Shape} {value other : Value}
    (agrees : (Shape.entries shape).Agrees value other) :
    hasShowableKeys value = hasShowableKeys other := by
  obtain ⟨entries, others, rfl, rfl, parts⟩ := agrees
  simp only [hasShowableKeys]
  induction parts with
  | nil => rfl
  | cons head _ ih => rw [List.all_cons, List.all_cons, head.1, ih]

theorem responses_agree {value other : Value}
    (agrees : (Shape.entries (.record .body)).Agrees value other) :
    Agree (Option.map (viewValues Body.bare)) (checkResponses value) (checkResponses other) := by
  have textual := agrees_withTextKeys agrees
  have bodies : Agree (viewValues Body.bare)
      (Check.fields (optional checkBody) (withTextKeys value))
      (Check.fields (optional checkBody) (withTextKeys other)) :=
    mapping_agree_of_agrees (fun _ _ => optional_agree_of_agrees id) textual
  unfold checkResponses
  rw [hasShowableKeys_of_agrees agrees]
  split
  next =>
    obtain ⟨_, _, isMapping, alsoMapping, _⟩ := textual
    exact optional_agree (by rw [isMapping]; rfl) (by rw [alsoMapping]; rfl) bodies
  next => exact .refl _

theorem forall₂_filter {left right : List α} {related filtered : α → α → Prop} {keep : α → Bool}
    (same : ∀ item other, related item other →
      keep item = keep other ∧ (keep item = true → filtered item other))
    (parts : List.Forall₂ related left right) :
    List.Forall₂ filtered (left.filter keep) (right.filter keep) := by
  induction parts with
  | nil => exact .nil
  | @cons item other _ _ head _ ih =>
      obtain ⟨kept, imp⟩ := same item other head
      rw [List.filter_cons, List.filter_cons, ← kept]
      split
      next keeps => exact .cons (imp keeps) ih
      next => exact ih

theorem counts_of_isMethodKey {key : Scalar} (isMethod : isMethodKey key = true) :
    Kind.pathItem.counts key = true := by
  cases key with
  | text name =>
      simp only [isMethodKey, Method.isName, List.any_eq_true, beq_iff_eq] at isMethod
      obtain ⟨method, member, rfl⟩ := isMethod
      exact List.elem_eq_true_of_mem (.tail _ (List.mem_map_of_mem member))
  | _ => rfl

/-- What stands under a method of a path item is an operation. -/
theorem shape_of_isMethodKey {name : String} {shape : Shape}
    (isMethod : isMethodKey (.text name) = true) (part : (name, shape) ∈ Kind.pathItem.parts) :
    shape = .record .operation := by
  rw [Kind.parts, List.mem_cons] at part
  rcases part with equal | member
  · cases equal
    exact absurd isMethod (by decide)
  · obtain ⟨_, _, equal⟩ := List.mem_map.1 member
    exact (congrArg Prod.snd equal).symm

/-- The collection of the methods of a path item that does not bring its own. -/
theorem get?_collected {entries : Entries} (keep : Scalar × Value → Bool) (value : Value)
    (absent : Entries.get? entries (.text name) = none) :
    Entries.get? (entries.filter keep ++ [(.text name, value)]) (.text name) = some value := by
  induction entries with
  | nil => simp [Entries.get?_cons]
  | cons entry rest ih =>
      rw [Entries.get?_cons] at absent
      split at absent
      next => cases absent
      next other =>
        rw [List.filter_cons]
        split
        next => rw [List.cons_append, Entries.get?_cons, if_neg other, ih absent]
        next => exact ih absent

theorem fieldOr_of_get? {entries : Entries} {default : α} {check : Value → Checked α}
    {value : Value} (found : Entries.get? entries (.text name) = some value) :
    Check.fieldOr default entries [name] check = (check value).within (.name name) := by
  simp [Check.fieldOr, find?, found]

@[simp] theorem oddKeys_collectOperations (entries : Entries) :
    oddKeys (collectOperations entries) = oddKeys entries := by
  unfold collectOperations
  split
  next => rfl
  next =>
    unfold oddKeys
    rw [List.map_append, List.filter_append, List.filter_map, List.filter_map, List.filter_filter]
    have texts : (fun entry : Scalar × Value => (!isText entry.1) && !isMethodKey entry.1) =
        fun entry => !isText entry.1 := by
      funext entry
      obtain ⟨key, _⟩ := entry
      cases key <;> rfl
    have last : isText (.text "operations") = true := rfl
    simp [List.filter_map, Function.comp_def, texts, last]

namespace Kind.Alike

theorem mediaType (alike : Kind.mediaType.Alike left right) :
    Agree MediaType.bare (checkMediaType (.mapping left)) (checkMediaType (.mapping right)) := by
  have schema := alike.plain none ["schema", "schema_"] (optional anyFields)
    (by simp [Kind.names]) (by simp [Kind.parts])
  have extras := extras_agree alike.oddKeys_eq [["schema", "schema_"]]
  exact (schema.both extras).make MediaType.bare fun _ => rfl

/-- The content of a body or a parameter. -/
theorem content (alike : kind.Alike left right) (declared : "content" ∈ kind.names)
    (isPart : ∀ shape, ("content", shape) ∈ kind.parts → shape = .entries (.record .mediaType)) :
    Agree (Option.map (viewValues MediaType.bare))
      (Check.fieldOr none left ["content"] (optional checkContent))
      (Check.fieldOr none right ["content"] (optional checkContent)) := by
  refine alike.fieldOr none ["content"] _ (by simpa using declared) ?_
  intro name member shape part value other agrees
  obtain rfl := List.mem_singleton.1 member
  obtain rfl := isPart shape part
  exact content_agree agrees

theorem body (alike : Kind.body.Alike left right) :
    Agree Body.bare (checkBody (.mapping left)) (checkBody (.mapping right)) := by
  have description := alike.plain none ["description"] (optional text)
    (by simp [Kind.names]) (by simp [Kind.parts])
  have content := alike.content (by simp [Kind.names]) (by simp [Kind.parts])
  have extras := extras_agree alike.oddKeys_eq [["description"], ["content"]]
  exact (description.both (content.both extras)).make Body.bare fun _ => rfl

theorem parameter (alike : Kind.parameter.Alike left right) :
    Agree Parameter.bare (checkParameter (.mapping left)) (checkParameter (.mapping right)) := by
  have name := alike.field ["name"] text (by simp [Kind.names]) (by simp [Kind.parts])
  have location := alike.field ["in", "location"] checkLocation
    (by simp [Kind.names]) (by simp [Kind.parts])
  have required := alike.plain false ["required"] truth
    (by simp [Kind.names]) (by simp [Kind.parts])
  have description := alike.plain none ["description"] (optional text)
    (by simp [Kind.names]) (by simp [Kind.parts])
  have schema := alike.plain none ["schema", "schema_"] (optional anyFields)
    (by simp [Kind.names]) (by simp [Kind.parts])
  have content := alike.content (by simp [Kind.names]) (by simp [Kind.parts])
  have extras := extras_agree alike.oddKeys_eq
    [["name"], ["in", "location"], ["required"], ["description"], ["schema", "schema_"],
     ["content"]]
  exact (name.both (location.both (required.both (description.both (schema.both
    (content.both extras)))))).make Parameter.bare fun _ => rfl

theorem operation (alike : Kind.operation.Alike left right) :
    Agree Operation.bare (checkOperation (.mapping left)) (checkOperation (.mapping right)) := by
  have description := alike.plain none ["description"] (optional text)
    (by simp [Kind.names]) (by simp [Kind.parts])
  have parameters : Agree (List.map Parameter.bare)
      (Check.fieldOr [] left ["parameters"] (Check.list checkParameter))
      (Check.fieldOr [] right ["parameters"] (Check.list checkParameter)) := by
    refine alike.fieldOr [] ["parameters"] _ (by simp [Kind.names]) ?_
    intro name member shape part value other agrees
    obtain rfl := List.mem_singleton.1 member
    obtain rfl : shape = .items (.record .parameter) := by simpa [Kind.parts] using part
    have checks (value other : Value) (agrees : (Shape.record .parameter).Agrees value other) :
        Agree Parameter.bare (checkParameter value) (checkParameter other) := agrees.2.2
    exact list_agree_of_agrees checks agrees
  have requestBody : Agree (Option.map Body.bare)
      (Check.fieldOr none left ["requestBody", "request_body"] (optional checkBody))
      (Check.fieldOr none right ["requestBody", "request_body"] (optional checkBody)) := by
    refine alike.fieldOr none ["requestBody", "request_body"] _ (by simp [Kind.names]) ?_
    intro name member shape part value other agrees
    obtain rfl : shape = .record .body := by
      rcases List.mem_pair.1 member with rfl | rfl <;> simpa [Kind.parts] using part
    exact optional_agree_of_agrees id agrees
  have responses : Agree (Option.map (viewValues Body.bare))
      (Check.fieldOr none left ["responses"] checkResponses)
      (Check.fieldOr none right ["responses"] checkResponses) := by
    refine alike.fieldOr none ["responses"] _ (by simp [Kind.names]) ?_
    intro name member shape part value other agrees
    obtain rfl := List.mem_singleton.1 member
    obtain rfl : shape = .entries (.record .body) := by simpa [Kind.parts] using part
    exact responses_agree agrees
  have extras := extras_agree alike.oddKeys_eq
    [["description"], ["parameters"], ["requestBody", "request_body"], ["responses"]]
  exact (description.both (parameters.both (requestBody.both (responses.both extras)))).make
    Operation.bare fun _ => rfl

/-- The methods of path items that are alike. -/
theorem methods (alike : Kind.pathItem.Alike left right) :
    (Shape.entries (.record .operation)).Agrees
      (.mapping (left.filter fun entry => isMethodKey entry.1))
      (.mapping (right.filter fun entry => isMethodKey entry.1)) := by
  have counted (entries : Entries) :
      (entries.filter (Kind.pathItem.counts ·.1)).filter (fun entry => isMethodKey entry.1) =
        entries.filter fun entry => isMethodKey entry.1 := by
    rw [List.filter_filter]
    refine List.filter_congr fun entry _ => ?_
    simpa using counts_of_isMethodKey
  refine ⟨_, _, rfl, rfl, ?_⟩
  rw [← counted left, ← counted right]
  refine forall₂_filter (fun entry other same => ?_) alike
  refine ⟨by rw [same.1], fun isMethod => ⟨same.1, ?_⟩⟩
  rcases same.2 with equal | ⟨name, shape, isText, part, agrees⟩
  · exact .inl equal
  · obtain rfl := shape_of_isMethodKey (isText ▸ isMethod) part
    exact .inr agrees

/-- Path items that are alike either both have a collection of their methods, or none does. -/
theorem isSome_operations (alike : Kind.pathItem.Alike left right) :
    (Entries.get? left (.text "operations")).isSome =
      (Entries.get? right (.text "operations")).isSome := by
  have declared : "operations" ∈ Kind.names .pathItem := by simp [Kind.names]
  have found := get?_cases alike "operations"
  rw [get?_filter_counts declared, get?_filter_counts declared] at found
  rcases found with ⟨absent, alsoAbsent⟩ | ⟨_, _, found, alsoFound, _⟩
  · rw [absent, alsoAbsent]
  · rw [found, alsoFound]
    rfl

theorem pathItem (alike : Kind.pathItem.Alike left right) :
    Agree PathItem.bare (checkPathItem (.mapping left)) (checkPathItem (.mapping right)) := by
  have operations : Agree (List.map (Prod.map id (Option.map Operation.bare)))
      (Check.fieldOr [] (collectOperations left) ["operations"]
        (mapping (choice Method.names) (optional checkOperation)))
      (Check.fieldOr [] (collectOperations right) ["operations"]
        (mapping (choice Method.names) (optional checkOperation))) := by
    have checks (value other : Value) (agrees : (Shape.record .operation).Agrees value other) :
        Agree (Option.map Operation.bare) (optional checkOperation value)
          (optional checkOperation other) := optional_agree_of_agrees id agrees
    unfold collectOperations
    rw [alike.isSome_operations]
    split
    next given =>
      refine alike.fieldOr [] ["operations"] _ (by simp [Kind.names]) ?_
      intro name member shape part value other agrees
      obtain rfl := List.mem_singleton.1 member
      obtain rfl : shape = .entries (.record .operation) := by
        simpa [Kind.parts, Method.names] using part
      exact mapping_agree_of_agrees checks agrees
    next absent =>
      have absentLeft : Entries.get? left (.text "operations") = none := by
        simpa [← alike.isSome_operations] using absent
      have absentRight : Entries.get? right (.text "operations") = none := by simpa using absent
      rw [fieldOr_of_get? (get?_collected _ _ absentLeft),
        fieldOr_of_get? (get?_collected _ _ absentRight)]
      exact (mapping_agree_of_agrees checks alike.methods).within _
  have extras : Agree (fun _ => ([] : Fields))
      (Check.extras (collectOperations left) [["operations"]])
      (Check.extras (collectOperations right) [["operations"]]) :=
    extras_agree (by rw [oddKeys_collectOperations, oddKeys_collectOperations, alike.oddKeys_eq])
      [["operations"]]
  exact (operations.both extras).make PathItem.bare fun _ => rfl

theorem info (alike : Kind.info.Alike left right) :
    Agree Info.bare (checkInfo (.mapping left)) (checkInfo (.mapping right)) := by
  have title := alike.plain Info.default.title ["title"] text
    (by simp [Kind.names]) (by simp [Kind.parts])
  have version := alike.plain Info.default.version ["version"] text
    (by simp [Kind.names]) (by simp [Kind.parts])
  have description := alike.plain none ["description"] (optional text)
    (by simp [Kind.names]) (by simp [Kind.parts])
  have extras := extras_agree alike.oddKeys_eq [["title"], ["version"], ["description"]]
  exact (title.both (version.both (description.both extras))).make Info.bare fun _ => rfl

theorem document (alike : Kind.document.Alike left right) :
    Agree Document.bare (checkDocument (.mapping left)) (checkDocument (.mapping right)) := by
  have openapi := alike.field ["openapi"] text (by simp [Kind.names]) (by simp [Kind.parts])
  have info : Agree Info.bare (Check.fieldOr Info.default left ["info"] checkInfo)
      (Check.fieldOr Info.default right ["info"] checkInfo) := by
    refine alike.fieldOr Info.default ["info"] _ (by simp [Kind.names]) ?_
    intro name member shape part value other agrees
    obtain rfl := List.mem_singleton.1 member
    obtain rfl : shape = .record .info := by simpa [Kind.parts] using part
    exact agrees.2.2
  have paths : Agree (viewValues PathItem.bare)
      (Check.fieldOr [] left ["paths"] (Check.fields (optional checkPathItem)))
      (Check.fieldOr [] right ["paths"] (Check.fields (optional checkPathItem))) := by
    refine alike.fieldOr [] ["paths"] _ (by simp [Kind.names]) ?_
    intro name member shape part value other agrees
    obtain rfl := List.mem_singleton.1 member
    obtain rfl : shape = .entries (.record .pathItem) := by simpa [Kind.parts] using part
    exact mapping_agree_of_agrees (fun _ _ => optional_agree_of_agrees id) agrees
  have components := alike.plain none ["components"] (optional anyFields)
    (by simp [Kind.names]) (by simp [Kind.parts])
  have extras := extras_agree alike.oddKeys_eq [["openapi"], ["info"], ["paths"], ["components"]]
  exact (openapi.both (info.both (paths.both (components.both extras)))).make Document.bare
    fun _ => rfl

end Kind.Alike

/-! ## Documents -/

theorem mem_names_of_mem_parts {shape : Shape} (part : (name, shape) ∈ kind.parts) :
    name ∈ kind.names := by
  cases kind with
  | pathItem =>
      rw [Kind.parts, List.mem_cons] at part
      rcases part with equal | member
      · cases equal
        exact List.mem_cons_self
      · obtain ⟨method, known, equal⟩ := List.mem_map.1 member
        cases equal
        exact .tail _ (List.mem_map_of_mem known)
  | info | mediaType => cases part
  | document | operation | parameter | body =>
      simp only [Kind.parts, List.mem_cons, List.not_mem_nil, or_false, Prod.mk.injEq] at part
      simp only [Kind.names, List.mem_cons, List.not_mem_nil, or_false]
      grind

/-- The checks agree on records that are alike. -/
theorem Kind.Alike.agrees (alike : kind.Alike left right) :
    (Shape.record kind).Agrees (.mapping left) (.mapping right) := by
  refine ⟨rfl, rfl, ?_⟩
  cases kind with
  | document => exact alike.document
  | info => exact alike.info
  | pathItem => exact alike.pathItem
  | operation => exact alike.operation
  | parameter => exact alike.parameter
  | body => exact alike.body
  | mediaType => exact alike.mediaType

/-- The checks agree on values that differ only in keys that are not declared. -/
theorem agrees_of_differs {shape : Shape} {left right : Value}
    (differs : Differs shape left right) : shape.Agrees left right := by
  induction differs with
  | @keys kind left right same =>
      refine Kind.Alike.agrees ?_
      rw [Kind.Alike, same, List.forall₂_same]
      exact fun entry _ => ⟨rfl, .inl rfl⟩
  | @field kind name shape front back left right part _ ih =>
      refine Kind.Alike.agrees ?_
      have counts : kind.counts (.text name) = true :=
        List.elem_eq_true_of_mem (mem_names_of_mem_parts part)
      have same (entries : Entries) : List.Forall₂ (fun entry other => entry.1 = other.1 ∧
          kind.SamePart entry.1 entry.2 other.2) entries entries :=
        List.forall₂_same.2 fun entry _ => ⟨rfl, .inl rfl⟩
      rw [Kind.Alike, List.filter_append, List.filter_append, List.filter_cons, if_pos counts,
        List.filter_cons, if_pos counts]
      exact List.rel_append (same _) (.cons ⟨rfl, .inr ⟨name, shape, rfl, part, ih⟩⟩ (same _))
  | @entry shape key front back left right _ ih =>
      have same (entries : Entries) : List.Forall₂ (fun entry other => entry.1 = other.1 ∧
          (entry.2 = other.2 ∨ shape.Agrees entry.2 other.2)) entries entries :=
        List.forall₂_same.2 fun entry _ => ⟨rfl, .inl rfl⟩
      exact ⟨_, _, rfl, rfl, List.rel_append (same _) (.cons ⟨rfl, .inr ih⟩ (same _))⟩
  | @item shape front back left right _ ih =>
      have same (items : List Value) : List.Forall₂ (fun item other => item = other ∨
          shape.Agrees item other) items items :=
        List.forall₂_same.2 fun item _ => .inl rfl
      exact ⟨_, _, List.rel_append (same _) (.cons (.inr ih) (same _)), .inl ⟨rfl, rfl⟩⟩
  | @component shape front back left right _ ih =>
      have same (items : List Value) : List.Forall₂ (fun item other => item = other ∨
          shape.Agrees item other) items items :=
        List.forall₂_same.2 fun item _ => .inl rfl
      exact ⟨_, _, List.rel_append (same _) (.cons (.inr ih) (same _)), .inr ⟨rfl, rfl⟩⟩

/-- A document with one operation, which has the given entries. -/
def operating (entries : Entries) : Value :=
  .mapping [(.text "openapi", .text "3.0.0"),
    (.text "paths", .mapping [(.text "/n", .mapping [(.text "get", .mapping entries)])])]

end RouteTypes.Contract
