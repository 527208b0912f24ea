import RouteTypes.Proofs.Value.Fields
import Mathlib.Data.List.Nodup

/-!
# Entries of mappings

How setting entries changes what a mapping holds. The facts are about text keys: on these,
equality of keys is equality, and a mapping of a document has each of them once.
-/

namespace RouteTypes

namespace Scalar

@[simp] theorem same_text (key : Scalar) (name : String) :
    key.same (.text name) = true ↔ key = .text name := by
  cases key <;> simp [same]

@[simp] theorem text_same (name : String) (key : Scalar) :
    (Scalar.text name).same key = true ↔ key = .text name := by
  cases key with
  | text other => simpa [same] using eq_comm
  | _ => simp [same]

end Scalar

namespace Entries

variable {α β : Type} {entries additions base : List (Scalar × α)} {name : String} {value : α}

/-- All keys are texts, and no key stands twice. -/
structure Textual (entries : List (Scalar × α)) : Prop where
  texts : ∀ entry ∈ entries, ∃ name, entry.1 = .text name
  distinct : (entries.map Prod.fst).Nodup

theorem textual_nil : Textual ([] : List (Scalar × α)) := ⟨nofun, .nil⟩

@[simp] theorem putAll_nil : putAll entries [] = entries := rfl

@[simp] theorem putAll_cons (entry : Scalar × α) :
    putAll entries (entry :: additions) = putAll (put entries entry.1 entry.2) additions := rfl

@[simp] theorem get?_nil (key : Scalar) : get? ([] : List (Scalar × α)) key = none := rfl

@[simp] theorem get?_cons (entry : Scalar × α) (key : Scalar) :
    get? (entry :: entries) key =
      if entry.1.same key then some entry.2 else get? entries key := by
  by_cases equal : entry.1.same key = true <;> simp [get?, equal]

/-- What is found under a text key stands there. -/
theorem mem_of_get? (found : get? entries (.text name) = some value) :
    (.text name, value) ∈ entries := by
  induction entries with
  | nil => simp at found
  | cons entry rest ih =>
      rw [get?_cons] at found
      split at found
      next equal =>
        rw [Scalar.same_text] at equal
        have second : entry.2 = value := by simpa using found
        rw [← equal, ← second]
        exact List.mem_cons_self
      next => exact List.mem_cons_of_mem _ (ih found)

/-- What stands under a text key that stands once is found. -/
theorem get?_of_mem (distinct : (entries.map Prod.fst).Nodup)
    (member : (.text name, value) ∈ entries) : get? entries (.text name) = some value := by
  induction entries with
  | nil => cases member
  | cons entry rest ih =>
      rw [List.map_cons, List.nodup_cons] at distinct
      rw [get?_cons]
      rcases List.mem_cons.1 member with rfl | inRest
      · simp
      · have different : entry.1 ≠ .text name := by
          intro same
          exact distinct.1 (same ▸ List.mem_map_of_mem inRest)
        rw [if_neg (by simpa using different)]
        exact ih distinct.2 inRest

/-- Setting another key does not change what stands under a text key. -/
@[simp] theorem get?_put_of_ne {key : Scalar} (different : key ≠ .text name) :
    get? (put entries key value) (.text name) = get? entries (.text name) := by
  induction entries with
  | nil => simp [put, get?_cons, different]
  | cons entry rest ih =>
      rw [put]
      split
      next equal =>
        have unequal : entry.1 ≠ .text name := by
          intro named
          rw [named, Scalar.text_same] at equal
          exact different equal
        simp [get?_cons, unequal]
      next => rw [get?_cons, get?_cons, ih]

/-- Setting other keys does not change what stands under a text key. -/
@[simp] theorem get?_putAll_of_ne (different : ∀ entry ∈ additions, entry.1 ≠ .text name) :
    get? (putAll entries additions) (.text name) = get? entries (.text name) := by
  induction additions generalizing entries with
  | nil => rfl
  | cons entry rest ih =>
      rw [putAll_cons, ih fun other member => different other (List.mem_cons_of_mem _ member)]
      exact get?_put_of_ne (different entry List.mem_cons_self)

@[simp] theorem get?_put_self (entries : List (Scalar × α)) (name : String) (value : α) :
    get? (put entries (.text name) value) (.text name) = some value := by
  induction entries with
  | nil => simp [put, get?_cons]
  | cons entry rest ih =>
      rw [put]
      split
      next equal => rw [get?_cons, if_pos equal]
      next different => rw [get?_cons, if_neg different, ih]

/-- What is set under a text key, and nowhere else under it, is found. -/
theorem get?_putAll_of_get? (distinct : (additions.map Prod.fst).Nodup)
    (added : get? additions (.text name) = some value) :
    get? (putAll entries additions) (.text name) = some value := by
  induction additions generalizing entries with
  | nil => simp at added
  | cons entry rest ih =>
      rw [List.map_cons, List.nodup_cons] at distinct
      rw [get?_cons] at added
      rw [putAll_cons]
      split at added
      next equal =>
        rw [Scalar.same_text] at equal
        rw [get?_putAll_of_ne, equal, get?_put_self, added]
        intro other member same
        exact distinct.1 (equal ▸ same ▸ List.mem_map_of_mem member)
      next => exact ih distinct.2 added

/-- An entry of a mapping after a key was set is an old one, or its value is the new one. -/
theorem mem_put {key : Scalar} {entry : Scalar × α} (member : entry ∈ put entries key value) :
    entry ∈ entries ∨ entry.2 = value ∧
      (entry.1 = key ∨ ∃ old ∈ entries, old.1 = entry.1 ∧ old.1.same key) := by
  induction entries with
  | nil =>
      simp only [put, List.mem_singleton] at member
      exact .inr ⟨by rw [member], .inl (by rw [member])⟩
  | cons first rest ih =>
      rw [put] at member
      split at member
      next equal =>
        rcases List.mem_cons.1 member with rfl | member
        · exact .inr ⟨rfl, .inr ⟨first, List.mem_cons_self, rfl, equal⟩⟩
        · exact .inl (List.mem_cons_of_mem _ member)
      next =>
        rcases List.mem_cons.1 member with rfl | member
        · exact .inl List.mem_cons_self
        · rcases ih member with old | ⟨second, key | ⟨old, oldMember, found⟩⟩
          · exact .inl (List.mem_cons_of_mem _ old)
          · exact .inr ⟨second, .inl key⟩
          · exact .inr ⟨second, .inr ⟨old, List.mem_cons_of_mem _ oldMember, found⟩⟩

/-- A property of values that all entries have, old and new ones, all have afterwards. -/
theorem forall_putAll {property : α → Prop} (old : ∀ entry ∈ entries, property entry.2)
    (new : ∀ entry ∈ additions, property entry.2) :
    ∀ entry ∈ putAll entries additions, property entry.2 := by
  induction additions generalizing entries with
  | nil => exact old
  | cons first rest ih =>
      rw [putAll_cons]
      apply ih
      · intro entry member
        rcases mem_put member with member | ⟨equal, _⟩
        · exact old entry member
        · rw [equal]
          exact new first List.mem_cons_self
      · exact fun entry member => new entry (List.mem_cons_of_mem _ member)

/-! ## Two ways of setting the same entries -/

@[simp] theorem put_put (entries : List (Scalar × α)) (name : String) (first second : α) :
    put (put entries (.text name) first) (.text name) second =
      put entries (.text name) second := by
  induction entries with
  | nil => simp [put]
  | cons entry rest ih => by_cases equal : entry.1 = .text name <;> simp [put, equal, ih]

/-- A key that is there keeps its place, so another key may be set before or after it. -/
theorem put_comm {other : String} {first second : α} (different : name ≠ other)
    (present : .text name ∈ entries.map Prod.fst) :
    put (put entries (.text other) first) (.text name) second =
      put (put entries (.text name) second) (.text other) first := by
  induction entries with
  | nil => simp at present
  | cons entry rest ih =>
      by_cases isOther : entry.1 = .text other
      · simp [put, isOther, Ne.symm different]
      · by_cases isName : entry.1 = .text name
        · simp [put, isName, different]
        · have inRest : .text name ∈ rest.map Prod.fst := by
            simpa [Ne.symm isName] using present
          simp [put, isOther, isName, ih inRest]

theorem mem_keys_put (entries : List (Scalar × α)) (name : String) (value : α) :
    .text name ∈ (put entries (.text name) value).map Prod.fst := by
  induction entries with
  | nil => simp [put]
  | cons entry rest ih => by_cases equal : entry.1 = .text name <;> simp [put, equal, ih]

theorem mem_keys_put_of_mem {key : Scalar} {other : String}
    (present : key ∈ entries.map Prod.fst) :
    key ∈ (put entries (.text other) value).map Prod.fst := by
  induction entries with
  | nil => simp at present
  | cons entry rest ih =>
      by_cases equal : entry.1 = .text other
      · simpa [put, equal] using present
      · rcases List.mem_cons.1 present with first | inRest
        · simp [put, equal, first]
        · simp [put, equal, ih inRest]

/-- A key that is there may be set before the entries of others. -/
theorem put_putAll (present : .text name ∈ entries.map Prod.fst)
    (texts : ∀ entry ∈ additions, ∃ name, entry.1 = .text name)
    (absent : .text name ∉ additions.map Prod.fst) :
    put (putAll entries additions) (.text name) value =
      putAll (put entries (.text name) value) additions := by
  induction additions generalizing entries with
  | nil => rfl
  | cons entry rest ih =>
      obtain ⟨other, isText⟩ := texts entry List.mem_cons_self
      have different : name ≠ other := by
        intro equal
        subst equal
        exact absent (by simp [isText])
      rw [putAll_cons, putAll_cons, isText,
        ih (mem_keys_put_of_mem present)
          (fun other member => texts other (List.mem_cons_of_mem _ member))
          (fun inRest => absent (List.mem_cons_of_mem _ inRest)),
        put_comm different present]

theorem Textual.tail {entry : Scalar × α} (textual : Textual (entry :: entries)) :
    Textual entries where
  texts other member := textual.texts other (List.mem_cons_of_mem _ member)
  distinct := (List.nodup_cons.1 textual.distinct).2

theorem Textual.filter (textual : Textual entries) (keep : Scalar × α → Bool) :
    Textual (entries.filter keep) where
  texts entry member := textual.texts entry (List.mem_filter.1 member).1
  distinct := textual.distinct.sublist (List.filter_sublist.map Prod.fst)

/-- Whether all keys are texts that stand once is a matter of the keys. -/
theorem Textual.ofKeys {others : List (Scalar × β)} (textual : Textual entries)
    (keys : entries.map Prod.fst = others.map Prod.fst) : Textual others where
  texts := by
    intro entry member
    have inKeys : entry.1 ∈ others.map Prod.fst := List.mem_map_of_mem member
    rw [← keys, List.mem_map] at inKeys
    obtain ⟨origin, isOrigin, same⟩ := inKeys
    rw [← same]
    exact textual.texts origin isOrigin
  distinct := keys ▸ textual.distinct

/-- Laying entries over others in which a key was set is setting the key in the end. -/
theorem putAll_put (textual : Textual additions) :
    putAll base (put additions (.text name) value) =
      put (putAll base additions) (.text name) value := by
  induction additions generalizing base with
  | nil => rfl
  | cons entry rest ih =>
      by_cases equal : entry.1 = .text name
      · have absent : .text name ∉ rest.map Prod.fst := by
          rw [← equal]
          exact (List.nodup_cons.1 textual.distinct).1
        rw [put, if_pos (by simpa using equal), putAll_cons, putAll_cons, equal,
          put_putAll (mem_keys_put base name entry.2) textual.tail.texts absent, put_put]
      · rw [put, if_neg (by simpa using equal), putAll_cons, putAll_cons, ih textual.tail]

/-- The keys after one was set on which equality of keys is equality. -/
theorem keys_put {key : Scalar} (exact : ∀ other : Scalar, other.same key = true ↔ other = key)
    (entries : List (Scalar × α)) (value : α) :
    (put entries key value).map Prod.fst =
      if key ∈ entries.map Prod.fst then entries.map Prod.fst
      else entries.map Prod.fst ++ [key] := by
  induction entries with
  | nil => simp [put]
  | cons entry rest ih =>
      by_cases equal : entry.1 = key
      · rw [put, if_pos ((exact _).2 equal)]
        simp [equal]
      · rw [put, if_neg (mt (exact _).1 equal), List.map_cons, ih, List.map_cons]
        by_cases inRest : key ∈ rest.map Prod.fst
        · rw [if_pos inRest, if_pos (List.mem_cons_of_mem _ inRest)]
        · rw [if_neg inRest, if_neg (by simpa [Ne.symm equal] using inRest)]
          rfl

theorem nodup_keys_put {key : Scalar}
    (exact : ∀ other : Scalar, other.same key = true ↔ other = key)
    (distinct : (entries.map Prod.fst).Nodup) (value : α) :
    ((put entries key value).map Prod.fst).Nodup := by
  rw [keys_put exact]
  split
  next => exact distinct
  next absent =>
    refine List.nodup_append.2 ⟨distinct, by simp, ?_⟩
    intro earlier member other isKey equal
    rw [List.mem_singleton] at isKey
    exact absent (by rwa [← isKey, ← equal])

theorem Textual.put (textual : Textual entries) (name : String) (value : α) :
    Textual (put entries (.text name) value) where
  texts := by
    intro entry member
    rcases mem_put member with old | ⟨_, key | ⟨old, oldMember, equal, _⟩⟩
    · exact textual.texts entry old
    · exact ⟨name, key⟩
    · rw [← equal]
      exact textual.texts old oldMember
  distinct := nodup_keys_put (Scalar.same_text · name) textual.distinct value

theorem Textual.putAll (textual : Textual entries)
    (texts : ∀ entry ∈ additions, ∃ name, entry.1 = .text name) :
    Textual (putAll entries additions) := by
  induction additions generalizing entries with
  | nil => exact textual
  | cons entry rest ih =>
      obtain ⟨name, isText⟩ := texts entry List.mem_cons_self
      rw [putAll_cons, isText]
      exact ih (textual.put name entry.2) fun other member =>
        texts other (List.mem_cons_of_mem _ member)

/-- Laying entries over others that were laid over others. -/
theorem putAll_putAll (textual : Textual entries)
    (texts : ∀ entry ∈ additions, ∃ name, entry.1 = .text name) :
    putAll base (Entries.putAll entries additions) =
      Entries.putAll (Entries.putAll base entries) additions := by
  induction additions generalizing entries with
  | nil => rfl
  | cons entry rest ih =>
      obtain ⟨name, isText⟩ := texts entry List.mem_cons_self
      rw [putAll_cons, putAll_cons, isText,
        ih (textual.put name entry.2) fun other member =>
          texts other (List.mem_cons_of_mem _ member),
        putAll_put textual]

theorem put_of_absent (absent : .text name ∉ entries.map Prod.fst) (value : α) :
    put entries (.text name) value = entries ++ [(.text name, value)] := by
  induction entries with
  | nil => rfl
  | cons entry rest ih =>
      rw [List.map_cons, List.mem_cons, not_or] at absent
      rw [put, if_neg (by simpa using Ne.symm absent.1), ih absent.2, List.cons_append]

/-- Entries that are laid over nothing stay as they are. -/
theorem putAll_nil_of_textual (textual : Textual additions) : putAll [] additions = additions := by
  have laid (before : List (Scalar × α)) (whole : Textual (before ++ additions)) :
      putAll before additions = before ++ additions := by
    clear textual
    induction additions generalizing before with
    | nil => simp
    | cons entry rest ih =>
        obtain ⟨name, isText⟩ := whole.texts entry (by simp)
        have absent : .text name ∉ before.map Prod.fst := by
          have distinct := whole.distinct
          rw [List.map_append, List.nodup_append] at distinct
          intro member
          exact distinct.2.2 _ member _ (by simp [isText]) rfl
        rw [putAll_cons, isText, put_of_absent absent, ← isText, ih, List.append_assoc]
        · rfl
        · rwa [List.append_assoc]
  exact laid [] textual

/-! ## Where values come from -/

theorem map_put (entries : List (Scalar × α)) (key : Scalar) (value : α) (image : α → β) :
    (put entries key value).map (fun entry => (entry.1, image entry.2)) =
      put (entries.map fun entry => (entry.1, image entry.2)) key (image value) := by
  induction entries with
  | nil => rfl
  | cons entry rest ih =>
      rw [put, List.map_cons, put]
      split
      next => rfl
      next => rw [List.map_cons, ih]

/-- Which key gets which value does not depend on what the values are. -/
theorem map_putAll (entries additions : List (Scalar × α)) (image : α → β) :
    (putAll entries additions).map (fun entry => (entry.1, image entry.2)) =
      putAll (entries.map fun entry => (entry.1, image entry.2))
        (additions.map fun entry => (entry.1, image entry.2)) := by
  induction additions generalizing entries with
  | nil => rfl
  | cons entry rest ih =>
      rw [putAll_cons, ih, map_put]
      rfl

theorem length_le_put (entries : List (Scalar × α)) (key : Scalar) (value : α) :
    entries.length ≤ (put entries key value).length := by
  induction entries with
  | nil => exact Nat.zero_le _
  | cons entry rest ih =>
      rw [put]
      split
      next => exact Nat.le_refl _
      next => exact Nat.succ_le_succ ih

theorem length_le_putAll (entries additions : List (Scalar × α)) :
    entries.length ≤ (putAll entries additions).length := by
  induction additions generalizing entries with
  | nil => exact Nat.le_refl _
  | cons entry rest ih => exact Nat.le_trans (length_le_put entries entry.1 entry.2) (ih _)

/-- At every place stands what stood there before, or the value that was set. -/
theorem getElem?_put {key : Scalar} {index : Nat} {entry : Scalar × α}
    (found : (put entries key value)[index]? = some entry) :
    entries[index]? = some entry ∨ entry.2 = value := by
  induction entries generalizing index with
  | nil =>
      cases index with
      | zero =>
          cases found
          exact .inr rfl
      | succ index => cases found
  | cons first rest ih =>
      rw [put] at found
      split at found
      next =>
        cases index with
        | zero =>
            cases found
            exact .inr rfl
        | succ index => exact .inl found
      next =>
        cases index with
        | zero => exact .inl found
        | succ index => exact ih found

/-- At every place stands what stood there before, or one of the values that were set. -/
theorem getElem?_putAll {index : Nat} {entry : Scalar × α}
    (found : (putAll entries additions)[index]? = some entry) :
    entries[index]? = some entry ∨ ∃ addition ∈ additions, entry.2 = addition.2 := by
  induction additions generalizing entries with
  | nil => exact .inl found
  | cons first rest ih =>
      rcases ih found with earlier | ⟨addition, member, same⟩
      · exact (getElem?_put earlier).imp_right fun same => ⟨first, List.mem_cons_self, same⟩
      · exact .inr ⟨addition, List.mem_cons_of_mem _ member, same⟩

section

variable {related : α → α → Prop} {others : List (Scalar × α)}

/-- Setting related values in related entries gives related entries. -/
theorem forall₂_put
    (parts : List.Forall₂ (fun left right => left.1 = right.1 ∧ related left.2 right.2) entries
      others) {value other : α} (key : Scalar) (values : related value other) :
    List.Forall₂ (fun left right => left.1 = right.1 ∧ related left.2 right.2)
      (put entries key value) (put others key other) := by
  induction parts with
  | nil => exact .cons ⟨rfl, values⟩ .nil
  | cons head rest ih =>
      rw [put, put, ← head.1]
      split
      next => exact .cons ⟨rfl, values⟩ rest
      next => exact .cons head ih

theorem forall₂_putAll {additions more : List (Scalar × α)}
    (parts : List.Forall₂ (fun left right => left.1 = right.1 ∧ related left.2 right.2) entries
      others)
    (new : List.Forall₂ (fun left right => left.1 = right.1 ∧ related left.2 right.2) additions
      more) :
    List.Forall₂ (fun left right => left.1 = right.1 ∧ related left.2 right.2)
      (putAll entries additions) (putAll others more) := by
  induction new generalizing entries others with
  | nil => exact parts
  | cons head _ ih =>
      rw [putAll_cons, putAll_cons, ← head.1]
      exact ih (forall₂_put parts _ head.2)

end

end Entries

/-- The fields of a mapping from texts have names that differ. -/
@[simp] theorem textual_ofFields {fields : Fields} :
    Entries.Textual (fields.map fun field => (Scalar.text field.1, field.2)) ↔
      (fields.map Prod.fst).Nodup := by
  have keys : (fields.map fun field => (Scalar.text field.1, field.2)).map Prod.fst =
      (fields.map Prod.fst).map Scalar.text := by
    simp [List.map_map, Function.comp_def]
  constructor
  · intro textual
    have distinct := textual.distinct
    rw [keys] at distinct
    exact distinct.of_map _
  · intro distinct
    constructor
    · intro entry member
      obtain ⟨field, _, rfl⟩ := List.mem_map.1 member
      exact ⟨field.1, rfl⟩
    · rw [keys]
      exact List.Nodup.map (fun _ _ => Scalar.text.inj) distinct

/-- What stands under a text key of a mapping from texts. -/
@[simp] theorem get?_ofFields (fields : Fields) (name : String) :
    Entries.get? (fields.map fun field => (Scalar.text field.1, field.2)) (.text name) =
      Fields.get? fields name := by
  induction fields with
  | nil => rfl
  | cons field rest ih =>
      rw [List.map_cons, Entries.get?_cons, Fields.get?_cons, ih]
      rfl

end RouteTypes
