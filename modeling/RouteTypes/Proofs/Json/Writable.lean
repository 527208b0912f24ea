import RouteTypes.Proofs.Json.RoundTrip

/-!
# What has a JSON text

Whether a value has a text depends on its scalars and on the keys of its mappings, and not on the
layout: a value that has one in some layout has one in every other (`writeAt_ok_iff`). The reason
why a value has none is the first of its parts, in the order of writing, that has none
(`writeAt_eq_error_iff`).
-/

namespace RouteTypes.Json

open Value

/-- A value is made of scalars that have a text, with keys that become texts. -/
inductive Writable : Value → Prop where
  | scalar {value : Scalar} (shown : ∃ text, scalarText value = .ok text) :
      Writable (.scalar value)
  | list {items : List Value} (each : ∀ item ∈ items, Writable item) : Writable (.list items)
  | tuple {items : List Value} (each : ∀ item ∈ items, Writable item) : Writable (.tuple items)
  | mapping {entries : Entries} (keys : ∀ entry ∈ entries, ∃ name, keyText entry.1 = .ok name)
      (each : ∀ entry ∈ entries, Writable entry.2) : Writable (.mapping entries)

@[simp] theorem writable_scalar {value : Scalar} :
    Writable (.scalar value) ↔ ∃ text, scalarText value = .ok text :=
  ⟨fun | .scalar shown => shown, .scalar⟩

@[simp] theorem writable_list {items : List Value} :
    Writable (.list items) ↔ ∀ item ∈ items, Writable item :=
  ⟨fun | .list each => each, .list⟩

@[simp] theorem writable_tuple {items : List Value} :
    Writable (.tuple items) ↔ ∀ item ∈ items, Writable item :=
  ⟨fun | .tuple each => each, .tuple⟩

@[simp] theorem not_writable_set {items : List Scalar} : ¬Writable (.set items) := nofun

@[simp] theorem writable_mapping {entries : Entries} :
    Writable (.mapping entries) ↔
      (∀ entry ∈ entries, ∃ name, keyText entry.1 = .ok name) ∧
        ∀ entry ∈ entries, Writable entry.2 := by
  constructor
  · intro writable
    cases writable with
    | mapping keys each => exact ⟨keys, each⟩
  · exact fun given => .mapping given.1 given.2

variable {layout : Layout} {depth : Nat}

theorem exists_of_forall₂ {α β : Type} {related : α → β → Prop} {left : List α} {right : List β}
    (parts : List.Forall₂ related left right) {item : α} (member : item ∈ left) :
    ∃ other, related item other := by
  induction parts with
  | nil => cases member
  | @cons _ other _ _ head _ ih =>
      rcases List.mem_cons.1 member with rfl | member
      · exact ⟨other, head⟩
      · exact ih member

/-- Where a step succeeds for each item, there are all the results. -/
theorem exists_forall₂ {α β : Type} {related : α → β → Prop} {items : List α}
    (each : ∀ item ∈ items, ∃ image, related item image) :
    ∃ images, List.Forall₂ related items images := by
  induction items with
  | nil => exact ⟨[], .nil⟩
  | cons item rest ih =>
      obtain ⟨⟨image, first⟩, others⟩ := List.forall_mem_cons.1 each
      obtain ⟨images, later⟩ := ih others
      exact ⟨image :: images, .cons first later⟩

theorem writeItems_ok {items : List Value}
    (each : ∀ item ∈ items, ∃ text, writeAt layout depth item = .ok text) :
    ∃ texts, writeItems layout depth items = .ok texts := by
  simpa only [writeItems_eq_ok] using exists_forall₂ each

theorem writeEntries_ok {entries : Entries}
    (keys : ∀ entry ∈ entries, ∃ name, keyText entry.1 = .ok name)
    (each : ∀ entry ∈ entries, ∃ text, writeAt layout depth entry.2 = .ok text) :
    ∃ texts, writeEntries layout depth entries = .ok texts := by
  simp only [writeEntries_eq_ok]
  refine exists_forall₂ fun entry member => ?_
  obtain ⟨name, named⟩ := keys entry member
  obtain ⟨text, written⟩ := each entry member
  exact ⟨_, name, text, named, written, rfl⟩

/-- A value of this kind is written in any layout. -/
theorem Writable.written {value : Value} (writable : Writable value) :
    ∃ text, writeAt layout depth value = .ok text := by
  induction writable generalizing depth with
  | scalar shown => exact shown
  | @list items _ ih | @tuple items _ ih =>
      obtain ⟨texts, written⟩ : ∃ texts, writeItems layout (depth + 1) items = .ok texts :=
        writeItems_ok fun item member => ih item member
      rw [writeAt, written]
      exact ⟨_, rfl⟩
  | @mapping entries keys _ ih =>
      obtain ⟨texts, written⟩ : ∃ texts, writeEntries layout (depth + 1) entries = .ok texts :=
        writeEntries_ok keys fun entry member => ih entry member
      rw [writeAt, written]
      exact ⟨_, rfl⟩

/-- A value that is written in some layout is of this kind. -/
theorem writable_of_written {value : Value} {text : String}
    (written : writeAt layout depth value = .ok text) : Writable value := by
  induction value using inductionOnParts generalizing depth text with
  | scalar value => exact .scalar ⟨text, written⟩
  | set => cases written
  | list items ih =>
      rw [writeAt, except_bind_eq_ok] at written
      obtain ⟨_, inner, _⟩ := written
      refine .list fun item member => ?_
      obtain ⟨_, itemWritten⟩ := exists_of_forall₂ (writeItems_eq_ok.1 inner) member
      exact ih item member itemWritten
  | tuple items ih =>
      rw [writeAt, except_bind_eq_ok] at written
      obtain ⟨_, inner, _⟩ := written
      refine .tuple fun item member => ?_
      obtain ⟨_, itemWritten⟩ := exists_of_forall₂ (writeItems_eq_ok.1 inner) member
      exact ih item member itemWritten
  | mapping entries ih =>
      rw [writeAt, except_bind_eq_ok] at written
      obtain ⟨_, inner, _⟩ := written
      have parts {entry : Scalar × Value} (member : entry ∈ entries) :=
        exists_of_forall₂ (writeEntries_eq_ok.1 inner) member
      refine .mapping (fun entry member => ?_) (fun entry member => ?_)
      · obtain ⟨_, name, _, named, _⟩ := parts member
        exact ⟨name, named⟩
      · obtain ⟨_, _, _, _, entryWritten, _⟩ := parts member
        exact ih entry member entryWritten

/-- Whether a value has a text does not depend on the layout. -/
theorem writeAt_ok_iff {value : Value} :
    (∃ text, writeAt layout depth value = .ok text) ↔ Writable value :=
  ⟨fun ⟨_, written⟩ => writable_of_written written, Writable.written⟩

/-- Values of this kind are written where no half of a pair stands alone in them. -/
theorem exists_write_iff {value : Value} :
    (∃ text, write layout value = .ok text) ↔ Writable value ∧ value.isWhole = true := by
  simp only [write_eq_ok_iff, exists_and_right, writeAt_ok_iff]

/-! ## What stops the writing -/

/-- A scalar has no text: an integer that is too long, or a kind that is strange to JSON. -/
def Lacks (strange : String → Unwritable) (cause : Unwritable) : Scalar → Prop
  | .int value => Nat.pow 10 Number.maxDigits ≤ value.natAbs ∧ cause = .tooLong
  | .date value => cause = strange (Scalar.date value).kindName
  | .timestamp value => cause = strange (Scalar.timestamp value).kindName
  | .bytes value => cause = strange (Scalar.bytes value).kindName
  | _ => False

/-- The writing of a value comes to a part that has no text, behind parts that all have one. -/
inductive Stops (cause : Unwritable) : Value → Prop where
  | scalar {value : Scalar} (lacks : Lacks .value cause value) : Stops cause (.scalar value)
  | set {items : List Scalar} (isSet : cause = .value "set") : Stops cause (.set items)
  | item {before after : List Value} {item : Value} (written : ∀ item ∈ before, Writable item)
      (stops : Stops cause item) : Stops cause (.list (before ++ item :: after))
  | component {before after : List Value} {item : Value}
      (written : ∀ item ∈ before, Writable item) (stops : Stops cause item) :
      Stops cause (.tuple (before ++ item :: after))
  | key {before after : Entries} {entry : Scalar × Value} (written : Writable (.mapping before))
      (lacks : Lacks .key cause entry.1) : Stops cause (.mapping (before ++ entry :: after))
  | entry {before after : Entries} {entry : Scalar × Value} (written : Writable (.mapping before))
      (named : ∃ name, keyText entry.1 = .ok name) (stops : Stops cause entry.2) :
      Stops cause (.mapping (before ++ entry :: after))

section Stops

variable {cause : Unwritable}

@[simp] theorem integerText_eq_error_iff {value : Int} :
    integerText value = .error cause ↔
      Nat.pow 10 Number.maxDigits ≤ value.natAbs ∧ cause = .tooLong := by
  unfold integerText
  split
  next long => exact ⟨fun same => ⟨long, by cases same; rfl⟩, fun given => given.2 ▸ rfl⟩
  next short => exact ⟨nofun, fun given => absurd given.1 short⟩

@[simp] theorem scalarText_eq_error_iff {value : Scalar} :
    scalarText value = .error cause ↔ Lacks .value cause value := by
  cases value with
  | bool value => cases value <;> simp [scalarText, Lacks]
  | int value => exact integerText_eq_error_iff
  | date | timestamp | bytes => simp [scalarText, Lacks, eq_comm]
  | _ => simp [scalarText, Lacks]

@[simp] theorem keyText_eq_error_iff {key : Scalar} :
    keyText key = .error cause ↔ Lacks .key cause key := by
  cases key with
  | bool value => cases value <;> simp [keyText, Lacks]
  | int value =>
      refine Iff.trans ?_ integerText_eq_error_iff
      rw [keyText]
      cases integerText value <;> simp
  | date | timestamp | bytes => simp [keyText, Lacks, eq_comm]
  | _ => simp [keyText, Lacks]

theorem writeItems_eq_error_iff {items : List Value} :
    writeItems layout depth items = .error cause ↔ ∃ before item after,
      items = before ++ item :: after ∧ (∀ item ∈ before, Writable item) ∧
        writeAt layout depth item = .error cause := by
  simp only [writeItems_eq_mapM, except_mapM_eq_error, writeAt_ok_iff]

theorem writeEntry_ok_iff {entry : Scalar × Value} :
    (∃ text, writeEntry layout depth entry = .ok text) ↔
      (∃ name, keyText entry.1 = .ok name) ∧ Writable entry.2 := by
  simp only [writeEntry_eq_ok, ← @writeAt_ok_iff layout depth]
  constructor
  · rintro ⟨_, name, text, named, written, rfl⟩
    exact ⟨⟨name, named⟩, text, written⟩
  · rintro ⟨⟨name, named⟩, text, written⟩
    exact ⟨_, name, text, named, written, rfl⟩

theorem writeEntry_eq_error_iff {entry : Scalar × Value} :
    writeEntry layout depth entry = .error cause ↔
      Lacks .key cause entry.1 ∨
        (∃ name, keyText entry.1 = .ok name) ∧ writeAt layout depth entry.2 = .error cause := by
  rw [writeEntry, except_bind_eq_error, keyText_eq_error_iff]
  refine or_congr_right ⟨?_, ?_⟩
  · rintro ⟨name, named, failed⟩
    obtain failed | ⟨_, _, impossible⟩ := except_bind_eq_error.1 failed
    · exact ⟨⟨name, named⟩, failed⟩
    · cases impossible
  · rintro ⟨⟨name, named⟩, failed⟩
    exact ⟨name, named, except_bind_eq_error.2 (.inl failed)⟩

theorem writeEntries_eq_error_iff {entries : Entries} :
    writeEntries layout depth entries = .error cause ↔ ∃ before entry after,
      entries = before ++ entry :: after ∧ Writable (.mapping before) ∧
        (Lacks .key cause entry.1 ∨
          (∃ name, keyText entry.1 = .ok name) ∧ writeAt layout depth entry.2 = .error cause) := by
  simp only [writeEntries_eq_mapM, except_mapM_eq_error, writeEntry_ok_iff,
    writeEntry_eq_error_iff, writable_mapping, forall_and]

/-- The reason why a value has no text is the first part that has none. -/
@[simp] theorem writeAt_eq_error_iff {value : Value} :
    writeAt layout depth value = .error cause ↔ Stops cause value := by
  have closed {texts : Except Unwritable (List String)} {close : List String → String} :
      (texts >>= fun texts => pure (close texts)) = .error cause ↔ texts = .error cause := by
    cases texts <;> simp [bind, Except.bind, pure, Except.pure]
  induction value using inductionOnParts generalizing depth with
  | scalar value =>
      rw [writeAt, scalarText_eq_error_iff]
      constructor
      · exact .scalar
      · rintro ⟨lacks⟩
        exact lacks
  | set items =>
      rw [writeAt, Except.error.injEq]
      constructor
      · exact fun same => .set same.symm
      · rintro (_ | isSet)
        exact isSet.symm
  | list items ih =>
      rw [writeAt, closed, writeItems_eq_error_iff]
      constructor
      · rintro ⟨before, item, after, rfl, written, failed⟩
        exact .item written ((ih item (by simp)).1 failed)
      · rintro (_ | _ | ⟨written, stops⟩)
        exact ⟨_, _, _, rfl, written, (ih _ (by simp)).2 stops⟩
  | tuple items ih =>
      rw [writeAt, closed, writeItems_eq_error_iff]
      constructor
      · rintro ⟨before, item, after, rfl, written, failed⟩
        exact .component written ((ih item (by simp)).1 failed)
      · rintro (_ | _ | _ | ⟨written, stops⟩)
        exact ⟨_, _, _, rfl, written, (ih _ (by simp)).2 stops⟩
  | mapping entries ih =>
      rw [writeAt, closed, writeEntries_eq_error_iff]
      constructor
      · rintro ⟨before, entry, after, rfl, written, lacks | ⟨named, failed⟩⟩
        · exact .key written lacks
        · exact .entry written named ((ih entry (by simp)).1 failed)
      · rintro (_ | _ | _ | _ | ⟨written, lacks⟩ | ⟨written, named, stops⟩)
        · exact ⟨_, _, _, rfl, written, .inl lacks⟩
        · exact ⟨_, _, _, rfl, written, .inr ⟨named, (ih _ (by simp)).2 stops⟩⟩

/-- A part that has no text is not one that cannot be encoded. -/
theorem Stops.ne_half {value : Value} (stops : Stops cause value) (fault : Utf8.HalfFault) :
    cause ≠ .half fault := by
  have strange {kind : String → Unwritable} {scalar : Scalar}
      (lacks : Lacks kind cause scalar) (other : ∀ name, kind name ≠ .half fault) :
      cause ≠ .half fault := by
    cases scalar with
    | int => exact lacks.2 ▸ nofun
    | date | timestamp | bytes =>
        obtain rfl : cause = _ := lacks
        exact other _
    | _ => exact lacks.elim
  induction stops with
  | scalar lacks => exact strange lacks fun _ => Unwritable.noConfusion
  | set isSet => exact isSet ▸ nofun
  | item _ _ ih | component _ _ ih | entry _ _ _ ih => exact ih
  | key _ lacks => exact strange lacks fun _ => Unwritable.noConfusion

/-- The writing of a value fails with its first part that has no text, or with a half of a pair. -/
theorem stops_or_half {value : Value} (failed : write layout value = .error cause) :
    Stops cause value ∨
      ∃ fault, cause = .half fault ∧ Writable value ∧ value.isWhole = false := by
  obtain failed | ⟨broken, text, fault, written, _, rfl⟩ := write_eq_error_iff.1 failed
  · exact .inl (writeAt_eq_error_iff.1 failed)
  · exact .inr ⟨fault, rfl, writable_of_written written, broken⟩

theorem Stops.write {value : Value} (stops : Stops cause value) :
    write layout value = .error cause :=
  write_eq_error_iff.2 (.inl (writeAt_eq_error_iff.2 stops))

/-- A half of a pair is all that is in the way of a value. -/
theorem exists_write_eq_half_iff {value : Value} :
    (∃ fault, write layout value = .error (.half fault)) ↔
      Writable value ∧ value.isWhole = false := by
  constructor
  · rintro ⟨fault, failed⟩
    obtain stops | ⟨_, _, given⟩ := stops_or_half failed
    · exact absurd rfl (stops.ne_half fault)
    · exact given
  · rintro ⟨writable, broken⟩
    cases tried : Json.write layout value with
    | ok text => simp [(write_eq_ok_iff.1 tried).2] at broken
    | error cause =>
        obtain stops | ⟨fault, rfl, _⟩ := stops_or_half tried
        · obtain ⟨text, written⟩ : ∃ text, writeAt layout 0 value = .ok text := writable.written
          rw [writeAt_eq_error_iff.2 stops] at written
          cases written
        · exact ⟨fault, rfl⟩

end Stops

@[simp] theorem writable_ofFields {fields : Fields} :
    Writable (.ofFields fields) ↔ ∀ field ∈ fields, Writable field.2 := by
  have named (field : String × Value) : ∃ name, keyText (.text field.1) = .ok name := ⟨_, rfl⟩
  rw [Value.ofFields, writable_mapping]
  simp only [List.forall_mem_map, named, implies_true, true_and]

end RouteTypes.Json
