import RouteTypes.Value

/-!
# Parts of values

A value is a tree. Its parts are the values that stand in it at any depth. References are only
followed in mappings and lists, so there are two notions: `Part` goes through mappings and lists,
and `DeepPart` also through tuples.
-/

namespace RouteTypes.Value

/-- Induction along the mappings, lists and tuples of a value. -/
@[elab_as_elim]
theorem inductionOnParts {motive : Value → Prop}
    (scalar : ∀ value, motive (.scalar value))
    (list : ∀ items, (∀ item ∈ items, motive item) → motive (.list items))
    (tuple : ∀ items, (∀ item ∈ items, motive item) → motive (.tuple items))
    (set : ∀ items, motive (.set items))
    (mapping : ∀ entries, (∀ entry ∈ entries, motive entry.2) → motive (.mapping entries)) :
    ∀ value, motive value
  | .scalar value => scalar value
  | .list items =>
      list items fun item _ => inductionOnParts scalar list tuple set mapping item
  | .tuple items =>
      tuple items fun item _ => inductionOnParts scalar list tuple set mapping item
  | .set items => set items
  | .mapping entries =>
      mapping entries fun entry _ =>
        inductionOnParts scalar list tuple set mapping entry.2
termination_by value => sizeOf value
decreasing_by
  · have smaller := List.sizeOf_lt_of_mem ‹item ∈ items›
    rw [Value.list.sizeOf_spec]
    omega
  · have smaller := List.sizeOf_lt_of_mem ‹item ∈ items›
    rw [Value.tuple.sizeOf_spec]
    omega
  · have smaller := List.sizeOf_lt_of_mem ‹entry ∈ entries›
    have half : sizeOf entry.2 < sizeOf entry := by
      cases entry
      simp only [Prod.mk.sizeOf_spec]
      omega
    rw [Value.mapping.sizeOf_spec]
    omega

/-- The first value stands in the second one, on a way through mappings and lists. -/
inductive Part : Value → Value → Prop where
  | whole (value : Value) : Part value value
  | entry {part : Value} {entries : Entries} {entry : Scalar × Value} :
      entry ∈ entries → Part part entry.2 → Part part (.mapping entries)
  | item {part item : Value} {items : List Value} :
      item ∈ items → Part part item → Part part (.list items)

/-- The first value stands in the second one, on a way that may also go through tuples. -/
inductive DeepPart : Value → Value → Prop where
  | whole (value : Value) : DeepPart value value
  | entry {part : Value} {entries : Entries} {entry : Scalar × Value} :
      entry ∈ entries → DeepPart part entry.2 → DeepPart part (.mapping entries)
  | item {part item : Value} {items : List Value} :
      item ∈ items → DeepPart part item → DeepPart part (.list items)
  | component {part item : Value} {items : List Value} :
      item ∈ items → DeepPart part item → DeepPart part (.tuple items)

variable {inner middle outer : Value}

@[simp] theorem part_scalar (part : Value) (value : Scalar) :
    Part part (.scalar value) ↔ part = .scalar value := by
  constructor
  · intro equal
    cases equal
    rfl
  · intro equal
    subst equal
    exact .whole _

@[simp] theorem part_list (part : Value) (items : List Value) :
    Part part (.list items) ↔ part = .list items ∨ ∃ item ∈ items, Part part item := by
  constructor
  · intro given
    rcases given with _ | _ | ⟨member, inside⟩
    · exact .inl rfl
    · exact .inr ⟨_, member, inside⟩
  · intro given
    rcases given with rfl | ⟨item, member, inside⟩
    · exact .whole _
    · exact .item member inside

@[simp] theorem part_tuple (part : Value) (items : List Value) :
    Part part (.tuple items) ↔ part = .tuple items := by
  constructor
  · intro equal
    cases equal
    rfl
  · intro equal
    subst equal
    exact .whole _

@[simp] theorem part_set (part : Value) (items : List Scalar) :
    Part part (.set items) ↔ part = .set items := by
  constructor
  · intro equal
    cases equal
    rfl
  · intro equal
    subst equal
    exact .whole _

@[simp] theorem part_mapping (part : Value) (entries : Entries) :
    Part part (.mapping entries) ↔
      part = .mapping entries ∨ ∃ entry ∈ entries, Part part entry.2 := by
  constructor
  · intro given
    rcases given with _ | ⟨member, inside⟩ | _
    · exact .inl rfl
    · exact .inr ⟨_, member, inside⟩
  · intro given
    rcases given with rfl | ⟨entry, member, inside⟩
    · exact .whole _
    · exact .entry member inside

theorem Part.trans (low : Part inner middle) (high : Part middle outer) :
    Part inner outer := by
  induction high with
  | whole => exact low
  | entry member _ ih => exact .entry member ih
  | item member _ ih => exact .item member ih

theorem DeepPart.trans (low : DeepPart inner middle) (high : DeepPart middle outer) :
    DeepPart inner outer := by
  induction high with
  | whole => exact low
  | entry member _ ih => exact .entry member ih
  | item member _ ih => exact .item member ih
  | component member _ ih => exact .component member ih

theorem Part.deep (part : Part inner outer) : DeepPart inner outer := by
  induction part with
  | whole => exact .whole _
  | entry member _ ih => exact .entry member ih
  | item member _ ih => exact .item member ih

theorem Part.ofEntry {entries : Entries} {entry : Scalar × Value}
    (member : entry ∈ entries) : Part entry.2 (.mapping entries) :=
  .entry member (.whole _)

theorem Part.ofItem {item : Value} {items : List Value} (member : item ∈ items) :
    Part item (.list items) :=
  .item member (.whole _)

end RouteTypes.Value
