import RouteTypes.Proofs.Value.Part
import RouteTypes.Reference

/-!
# References that stand in a value

A reference stands in a value where a mapping in it refers to something. Those that are reached
through mappings and lists alone are the ones that a resolution meets.
-/

namespace RouteTypes.Reference

open Value

/-- A reference stands in a value, on a way through mappings and lists. -/
def Refers (value : Value) (reference : String) : Prop :=
  ∃ entries, Part (.mapping entries) value ∧ reference? entries = some reference

/-- The reference of a value that is a mapping with one. -/
def referenceOf : Value → Option String
  | .mapping entries => reference? entries
  | _ => none

/-- No mapping in a value holds a reference under the key of references. -/
def Unnested (value : Value) : Prop :=
  ∀ entries held, Part (.mapping entries) value →
    Entries.get? entries referenceKey = some held → referenceOf held = none

@[simp] theorem textOf?_text (reference : String) : textOf? (.text reference) = some reference :=
  rfl

theorem scalar_of_textOf? {held : Value} {reference : String}
    (text : textOf? held = some reference) :
    ∃ scalar, held = .scalar scalar := by
  unfold textOf? at text
  split at text
  next => exact ⟨_, rfl⟩
  next => exact ⟨_, rfl⟩
  next => cases text

@[simp] theorem reference?_eq_some {entries : Entries} {reference : String} :
    reference? entries = some reference ↔
      ∃ held, Entries.get? entries referenceKey = some held ∧ textOf? held = some reference :=
  Option.bind_eq_some_iff

theorem Refers.ofEntry {entries : Entries} {entry : Scalar × Value} {reference : String}
    (member : entry ∈ entries) (refers : Refers entry.2 reference) :
    Refers (.mapping entries) reference := by
  obtain ⟨referring, part, found⟩ := refers
  exact ⟨referring, .entry member part, found⟩

theorem Refers.ofItem {item : Value} {items : List Value} {reference : String}
    (member : item ∈ items) (refers : Refers item reference) :
    Refers (.list items) reference := by
  obtain ⟨referring, part, found⟩ := refers
  exact ⟨referring, .item member part, found⟩

theorem Refers.ofPart {part whole : Value} {reference : String} (inside : Part part whole)
    (refers : Refers part reference) : Refers whole reference := by
  obtain ⟨referring, low, found⟩ := refers
  exact ⟨referring, low.trans inside, found⟩

theorem Refers.here {entries : Entries} {reference : String}
    (found : reference? entries = some reference) : Refers (.mapping entries) reference :=
  ⟨entries, .whole _, found⟩

mutual

/-- The references that stand in a value, in document order. -/
def references : Value → List String
  | .mapping entries => (reference? entries).toList ++ referencesOfEntries entries
  | .list items => referencesOfItems items
  | .scalar _ => []
  | .tuple _ => []
  | .set _ => []

/-- The references that stand in the items of a list. -/
def referencesOfItems : List Value → List String
  | [] => []
  | item :: rest => references item ++ referencesOfItems rest

/-- The references that stand in the values of a mapping. -/
def referencesOfEntries : List (Scalar × Value) → List String
  | [] => []
  | (_, value) :: rest => references value ++ referencesOfEntries rest

end

@[simp] theorem mem_referencesOfItems {items : List Value} {reference : String} :
    reference ∈ referencesOfItems items ↔ ∃ item ∈ items, reference ∈ references item := by
  induction items with
  | nil => simp [referencesOfItems]
  | cons item rest ih => simp [referencesOfItems, ih]

@[simp] theorem mem_referencesOfEntries {entries : Entries} {reference : String} :
    reference ∈ referencesOfEntries entries ↔
      ∃ entry ∈ entries, reference ∈ references entry.2 := by
  induction entries with
  | nil => simp [referencesOfEntries]
  | cons entry rest ih => simp [referencesOfEntries, ih]

@[simp] theorem mem_references {value : Value} {reference : String} :
    reference ∈ references value ↔ Refers value reference := by
  induction value using inductionOnParts with
  | scalar | tuple | set => simp [references, Refers]
  | list items ih =>
      rw [references, mem_referencesOfItems]
      constructor
      · intro given
        rcases given with ⟨item, member, listed⟩
        exact .ofItem member ((ih item member).1 listed)
      · intro refers
        rcases refers with ⟨entries, part, found⟩
        cases part with
        | item member inside => exact ⟨_, member, (ih _ member).2 ⟨entries, inside, found⟩⟩
  | mapping entries ih =>
      rw [references, List.mem_append, Option.mem_toList, mem_referencesOfEntries]
      constructor
      · intro given
        rcases given with found | ⟨entry, member, listed⟩
        · exact .here found
        · exact .ofEntry member ((ih entry member).1 listed)
      · intro refers
        rcases refers with ⟨referring, part, found⟩
        cases part with
        | whole => exact .inl found
        | entry member inside => exact .inr ⟨_, member, (ih _ member).2 ⟨referring, inside, found⟩⟩

/-- A reference stands anywhere in a value, also in a tuple. -/
def DeepRefers (value : Value) (reference : String) : Prop :=
  ∃ entries, DeepPart (.mapping entries) value ∧ reference? entries = some reference

theorem Refers.deep {value : Value} {reference : String} (refers : Refers value reference) :
    DeepRefers value reference := by
  obtain ⟨entries, part, found⟩ := refers
  exact ⟨entries, part.deep, found⟩

section Deep

variable {reference : String}

@[simp] theorem deepRefers_scalar (value : Scalar) : ¬DeepRefers (.scalar value) reference := by
  intro refers
  rcases refers with ⟨entries, part, _⟩
  cases part

@[simp] theorem deepRefers_set (items : List Scalar) : ¬DeepRefers (.set items) reference := by
  intro refers
  rcases refers with ⟨entries, part, _⟩
  cases part

@[simp] theorem deepRefers_list (items : List Value) :
    DeepRefers (.list items) reference ↔ ∃ item ∈ items, DeepRefers item reference := by
  constructor
  · intro refers
    rcases refers with ⟨entries, part, found⟩
    cases part with
    | item member inside => exact ⟨_, member, entries, inside, found⟩
  · intro given
    rcases given with ⟨item, member, entries, inside, found⟩
    exact ⟨entries, .item member inside, found⟩

@[simp] theorem deepRefers_tuple (items : List Value) :
    DeepRefers (.tuple items) reference ↔ ∃ item ∈ items, DeepRefers item reference := by
  constructor
  · intro refers
    rcases refers with ⟨entries, part, found⟩
    cases part with
    | component member inside => exact ⟨_, member, entries, inside, found⟩
  · intro given
    rcases given with ⟨item, member, entries, inside, found⟩
    exact ⟨entries, .component member inside, found⟩

@[simp] theorem deepRefers_mapping (entries : Entries) :
    DeepRefers (.mapping entries) reference ↔
      reference? entries = some reference ∨ ∃ entry ∈ entries, DeepRefers entry.2 reference := by
  constructor
  · intro refers
    rcases refers with ⟨referring, part, found⟩
    cases part with
    | whole => exact .inl found
    | entry member inside => exact .inr ⟨_, member, referring, inside, found⟩
  · intro given
    rcases given with found | ⟨entry, member, referring, inside, found⟩
    · exact ⟨entries, .whole _, found⟩
    · exact ⟨referring, .entry member inside, found⟩

end Deep

end RouteTypes.Reference
