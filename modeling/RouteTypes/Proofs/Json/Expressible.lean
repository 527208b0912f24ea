import Mathlib.Algebra.Group.Nat.Defs
import Mathlib.Data.List.Nodup
import RouteTypes.Proofs.Json.Writable
import RouteTypes.Proofs.Value.Entries

/-!
# What JSON can express

A value that JSON can express is written and read again as it was, and no other value is
(`expressible_iff`). Every value that is read from JSON is of this kind, as long as no half of a
pair stands alone in it (`expressible_of_read`).
-/

namespace RouteTypes.Json

open Value

/-- JSON can express a value as it is: a value without parts that is no date, timestamp or bytes
and no integer of more than the allowed number of digits, a list, or a mapping with texts as
keys. -/
inductive Expressible : Value → Prop where
  | null : Expressible .null
  | bool (value : Bool) : Expressible (.bool value)
  | int {value : Int} (short : value.natAbs < Nat.pow 10 Number.maxDigits) :
      Expressible (.int value)
  | float (value : Binary64) : Expressible (.scalar (.float value))
  | text (value : String) : Expressible (.text value)
  | list {items : List Value} (each : ∀ item ∈ items, Expressible item) :
      Expressible (.list items)
  | mapping {entries : Entries} (textual : Entries.Textual entries)
      (each : ∀ entry ∈ entries, Expressible entry.2) : Expressible (.mapping entries)

@[simp] theorem expressible_text (value : String) : Expressible (.text value) := .text value

@[simp] theorem expressible_bool (value : Bool) : Expressible (.bool value) := .bool value

@[simp] theorem expressible_list {items : List Value} :
    Expressible (.list items) ↔ ∀ item ∈ items, Expressible item := by
  constructor
  · intro expressible
    cases expressible with
    | list each => exact each
  · exact .list

@[simp] theorem expressible_mapping {entries : Entries} :
    Expressible (.mapping entries) ↔
      Entries.Textual entries ∧ ∀ entry ∈ entries, Expressible entry.2 := by
  constructor
  · intro expressible
    cases expressible with
    | mapping textual each => exact ⟨textual, each⟩
  · intro given
    exact .mapping given.1 given.2

@[simp] theorem expressible_ofFields {fields : Fields} :
    Expressible (.ofFields fields) ↔
      (fields.map Prod.fst).Nodup ∧ ∀ field ∈ fields, Expressible field.2 := by
  rw [Value.ofFields, expressible_mapping, textual_ofFields]
  simp only [List.forall_mem_map]

/-- A part of a value that JSON can express is of this kind. -/
theorem Expressible.part {inner outer : Value} (expressible : Expressible outer)
    (part : DeepPart inner outer) : Expressible inner := by
  induction part with
  | whole => exact expressible
  | entry member _ ih => exact ih ((expressible_mapping.1 expressible).2 _ member)
  | item member _ ih => exact ih (expressible_list.1 expressible _ member)
  | component => cases expressible

/-! ## Writing and reading again -/

/-- A value that JSON can express has a text. -/
theorem Expressible.writable {value : Value} (expressible : Expressible value) :
    Writable value := by
  induction expressible with
  | null | float | text => exact .scalar ⟨_, rfl⟩
  | bool value => cases value <;> exact .scalar ⟨_, rfl⟩
  | @int value short =>
      refine .scalar ⟨toString value, ?_⟩
      rw [scalarText, integerText, if_neg (Nat.not_le.2 short)]
  | list _ ih => exact .list ih
  | mapping textual _ ih =>
      refine .mapping (fun entry member => ?_) ih
      obtain ⟨name, isText⟩ := textual.texts entry member
      exact ⟨stringText name, isText ▸ rfl⟩

theorem Expressible.whole {value : Value} (expressible : Expressible value) :
    value.isWhole = true := by
  induction expressible with
  | null | bool | int | float | text => rw [isWhole_scalar]; rfl
  | list _ ih => exact isWhole_list.2 ih
  | mapping textual _ ih =>
      refine isWhole_mapping.2 fun entry member => ⟨?_, ih entry member⟩
      obtain ⟨name, isText⟩ := textual.texts entry member
      exact isText ▸ rfl

theorem expressible_scalar {scalar : Scalar} {text : String}
    (written : scalarText scalar = .ok text) (whole : scalar.isWhole = true) :
    Expressible (.scalar scalar) := by
  cases scalar with
  | null => exact .null
  | bool value => exact .bool value
  | int value =>
      rw [scalarText, integerText] at written
      split at written
      next => cases written
      next short => exact .int (Nat.not_le.1 short)
  | float value => exact .float value
  | text value => exact .text value
  | broken => cases whole
  | date | timestamp | bytes => cases written

/-- Of entries with texts as keys the keys are kept. -/
theorem decodedEntries_of_textual {entries : Entries} (textual : Entries.Textual entries) :
    decodedEntries entries = entries.map fun entry => (entry.1, decoded entry.2) := by
  rw [decodedEntries_eq, List.map_inj_left]
  intro entry member
  obtain ⟨name, isText⟩ := textual.texts entry member
  rw [isText]
  rfl

@[simp] theorem decoded_mapping {entries : Entries} (textual : Entries.Textual entries) :
    decoded (.mapping entries) =
      .mapping (entries.map fun entry => (entry.1, decoded entry.2)) := by
  rw [decoded, decodedEntries_of_textual textual, Entries.putAll_nil_of_textual]
  exact textual.ofKeys (by simp)

/-- All of a value that JSON can express is kept. -/
theorem decoded_of_expressible {value : Value} (expressible : Expressible value) :
    decoded value = value := by
  induction expressible with
  | null | bool | int | float | text => rw [decoded]
  | list _ ih =>
      rw [decoded, decodedItems_eq, List.map_congr_left ih, List.map_id']
  | @mapping entries textual _ ih =>
      have same : entries.map (fun entry => (entry.1, decoded entry.2)) = entries := by
        rw [List.map_congr_left fun entry member => by rw [ih entry member], List.map_id']
      rw [decoded_mapping textual, same]

theorem eq_of_map_eq {α : Type} {image : α → α} {items : List α} (same : items.map image = items)
    (item : α) (member : item ∈ items) : image item = item := by
  rw [← List.map_id items, List.map_map, List.map_inj_left] at same
  exact same item member

/-- A value that has a text without halves of pairs and of which all is kept is one that JSON can
express. -/
theorem expressible_of_decoded {value : Value} (writable : Writable value)
    (whole : value.isWhole = true) (same : decoded value = value) : Expressible value := by
  induction writable with
  | scalar shown =>
      obtain ⟨_, written⟩ := shown
      exact expressible_scalar written (by simpa using whole)
  | tuple =>
      rw [decoded] at same
      cases same
  | list _ ih =>
      rw [decoded, Value.list.injEq, decodedItems_eq] at same
      exact .list fun item member =>
        ih item member (isWhole_list.1 whole item member) (eq_of_map_eq same item member)
  | @mapping entries keys _ ih =>
      have parts := isWhole_mapping.1 whole
      have textual : Entries.Textual entries := by
        rw [decoded, Value.mapping.injEq, decodedEntries_eq] at same
        rw [← same]
        refine Entries.textual_nil.putAll fun entry member => ?_
        obtain ⟨original, isOriginal, rfl⟩ := List.mem_map.1 member
        obtain ⟨_, named⟩ := keys original isOriginal
        obtain ⟨name, isName, _⟩ := keyText_eq_ok named (parts original isOriginal).1
        exact ⟨name, isName⟩
      rw [decoded_mapping textual, Value.mapping.injEq] at same
      exact .mapping textual fun entry member =>
        ih entry member (parts entry member).2
          (congrArg Prod.snd (eq_of_map_eq same entry member))

/-- Exactly the values that JSON can express are written, in any layout, and read again as they
were. -/
theorem expressible_iff {value : Value} (layout : Layout) (floats : FloatsReadBack value) :
    (∃ text, write layout value = .ok text ∧ read text = .ok value) ↔ Expressible value := by
  constructor
  · intro given
    rcases given with ⟨text, written, readAgain⟩
    rw [read_write written floats] at readAgain
    obtain ⟨writable, whole⟩ := exists_write_iff.1 ⟨text, written⟩
    exact expressible_of_decoded writable whole (Except.ok.inj readAgain)
  · intro expressible
    obtain ⟨text, written⟩ := exists_write_iff.2 ⟨expressible.writable, expressible.whole⟩
    refine ⟨text, written, ?_⟩
    rw [read_write written floats, decoded_of_expressible expressible]

/-! ## Values that are read -/

theorem ofDigitChars_lt {text : List Char} (digits : ∀ c ∈ text, isDigit c) (value : Nat) :
    Nat.ofDigitChars 10 text value < (value + 1) * 10 ^ text.length := by
  induction text generalizing value with
  | nil => simp
  | cons c text ih =>
      have small : c.toNat - '0'.toNat ≤ 9 := by
        have digit := digits c List.mem_cons_self
        simp only [isDigit, Bool.and_eq_true, decide_eq_true_eq] at digit
        have upper : c.toNat ≤ 57 := digit.2
        have zero : '0'.toNat = 48 := rfl
        omega
      have later := ih (fun other member => digits other (List.mem_cons_of_mem _ member))
        (10 * value + (c.toNat - '0'.toNat))
      rw [Nat.ofDigitChars_cons]
      refine Nat.lt_of_lt_of_le later ?_
      rw [List.length_cons, Nat.pow_succ, Nat.mul_comm (10 ^ text.length), ← Nat.mul_assoc]
      exact Nat.mul_le_mul_right _ (by omega)

theorem digits_of_wholeDigits {text : List Char} {read : List Char × List Char}
    (found : wholeDigits text = some read) : ∀ c ∈ read.1, isDigit c := by
  cases text with
  | nil => cases found
  | cons c later =>
      by_cases zero : c = '0'
      · subst zero
        cases found
        intro other member
        rw [List.mem_singleton.1 member]
        rfl
      · rw [wholeDigits_cons zero] at found
        split at found
        next =>
          cases found
          exact List.all_eq_true.1 List.all_takeWhile
        next => cases found

theorem natAbs_signed (negative : Bool) (size : Nat) :
    (Binary64.signed negative size).natAbs = size := by
  cases negative <;> simp [Binary64.signed]

/-- A number that is read is one that JSON can express. -/
theorem expressible_number {negative : Bool} {whole fraction : List Char} {exponent : Option Int}
    {scalar : Scalar} (digits : ∀ c ∈ whole, isDigit c)
    (made : number negative whole fraction exponent = .ok scalar) :
    Expressible (.scalar scalar) := by
  unfold number at made
  split at made
  next =>
    split at made
    next => cases made
    next short =>
      cases made
      have bound := ofDigitChars_lt digits 0
      have limit : 10 ^ whole.length ≤ 10 ^ Number.maxDigits :=
        Nat.pow_le_pow_right (by decide) (Nat.not_lt.1 short)
      refine .int ?_
      rw [natAbs_signed, Nat.pow_eq]
      omega
  next =>
    cases made
    exact .float _

theorem expressible_of_readScalar {text : List Char} {result : Scalar × List Char}
    (success : readScalar text = .ok result) : Expressible (.scalar result.1) := by
  rcases readScalar_eq_ok success with ⟨word, member, _, same⟩ |
    ⟨negative, c, later, _, _, isNumber⟩
  · rw [same]
    rw [words_eq] at member
    simp only [List.mem_cons, List.not_mem_nil, or_false] at member
    rcases member with rfl | rfl | rfl | rfl | rfl | rfl
    · exact .null
    · exact .bool true
    · exact .bool false
    · exact .float _
    · exact .float _
    · exact .float _
  · rw [readNumber, Option.map_eq_some_iff] at isNumber
    obtain ⟨read, found, made⟩ := isNumber
    simp only [except_bind_eq_ok] at made
    obtain ⟨scalar, made, last⟩ := made
    cases last
    exact expressible_number (digits_of_wholeDigits found) made

/-- A text, maybe with halves of pairs. -/
inductive IsString : Scalar → Prop where
  | text (value : String) : IsString (.text value)
  | broken (value : BrokenText) : IsString (.broken value)

theorem isString_ofPoints (points : List Point) : IsString (Scalar.ofPoints points) := by
  unfold Scalar.ofPoints
  split
  next => exact .broken _
  next => exact .text _

/-- On texts equality of keys is equality. -/
theorem IsString.same_iff {key : Scalar} (string : IsString key) (other : Scalar) :
    other.same key = true ↔ other = key := by
  cases string with
  | text name => exact Scalar.same_text other name
  | broken name => cases other <;> simp [Scalar.same]

theorem IsString.text_of_whole {key : Scalar} (string : IsString key)
    (whole : key.isWhole = true) : ∃ name, key = .text name := by
  cases string with
  | text name => exact ⟨name, rfl⟩
  | broken => cases whole

/-- A value of the kinds that JSON has: as one that JSON can express, but in its texts and keys
halves of pairs may stand alone. -/
inductive Native : Value → Prop where
  | scalar {value : Scalar} (expressible : Expressible (.scalar value)) : Native (.scalar value)
  | string {value : Scalar} (string : IsString value) : Native (.scalar value)
  | list {items : List Value} (each : ∀ item ∈ items, Native item) : Native (.list items)
  | mapping {entries : Entries} (strings : ∀ entry ∈ entries, IsString entry.1)
      (distinct : (entries.map Prod.fst).Nodup) (each : ∀ entry ∈ entries, Native entry.2) :
      Native (.mapping entries)

/-- Without halves of pairs a value of the kinds that JSON has is one that JSON can express. -/
theorem Native.expressible {value : Value} (native : Native value) (whole : value.isWhole = true) :
    Expressible value := by
  induction native with
  | scalar expressible => exact expressible
  | string string =>
      obtain ⟨name, rfl⟩ := string.text_of_whole (by simpa using whole)
      exact .text name
  | list _ ih => exact .list fun item member => ih item member (isWhole_list.1 whole item member)
  | @mapping entries strings distinct _ ih =>
      have parts := isWhole_mapping.1 whole
      refine .mapping ⟨fun entry member => ?_, distinct⟩ fun entry member =>
        ih entry member (parts entry member).2
      exact (strings entry member).text_of_whole (parts entry member).1

theorem native_put {entries : Entries} (native : Native (.mapping entries)) {key : Scalar}
    (string : IsString key) {value : Value} (valueNative : Native value) :
    Native (.mapping (Entries.put entries key value)) := by
  cases native with
  | mapping strings distinct each =>
      refine .mapping (fun entry member => ?_)
        (Entries.nodup_keys_put string.same_iff distinct value) fun entry member => ?_
      · rcases Entries.mem_put member with old | ⟨_, isKey | ⟨old, oldMember, equal, _⟩⟩
        · exact strings entry old
        · exact isKey ▸ string
        · exact equal ▸ strings old oldMember
      · rcases Entries.mem_put member with old | ⟨isValue, _⟩
        · exact each entry old
        · exact isValue ▸ valueNative

/-- With so much fuel the readers of values, members and items give values of the kinds that JSON
has. -/
structure ReadsNative (fuel : Nat) : Prop where
  value {text : List Char} {result : Value × List Char}
    (success : readValue fuel text = .ok result) : Native result.1
  members {entries : Entries} {text : List Char} {result : Entries × List Char}
    (before : Native (.mapping entries))
    (success : readMembers fuel entries text = .ok result) : Native (.mapping result.1)
  items {text : List Char} {result : List Value × List Char}
    (success : readItems fuel text = .ok result) : ∀ item ∈ result.1, Native item

theorem isString_of_readString {text : List Char} {result : Scalar × List Char}
    (success : readString text = .ok result) : IsString result.1 := by
  rw [readString, except_bind_eq_ok] at success
  obtain ⟨read, _, success⟩ := success
  cases success
  exact isString_ofPoints _

theorem native_empty : Native (.mapping []) :=
  .mapping nofun .nil nofun

namespace ReadsNative

variable {fuel : Nat} {text : List Char}

theorem value_succ (reads : ReadsNative fuel) {result : Value × List Char}
    (success : readValue (fuel + 1) text = .ok result) : Native result.1 := by
  rw [readValue.eq_def] at success
  dsimp only at success
  split at success
  next =>
    rw [except_bind_eq_ok] at success
    obtain ⟨read, isString, success⟩ := success
    cases success
    exact .string (isString_of_readString isString)
  next =>
    split at success
    next =>
      cases success
      exact native_empty
    next =>
      rw [except_bind_eq_ok] at success
      obtain ⟨read, success, last⟩ := success
      cases last
      exact reads.members native_empty success
  next =>
    split at success
    next =>
      cases success
      exact .list (by simp)
    next =>
      rw [except_bind_eq_ok] at success
      obtain ⟨read, success, last⟩ := success
      cases last
      exact .list (reads.items success)
  next =>
    rw [except_bind_eq_ok] at success
    obtain ⟨read, success, last⟩ := success
    cases last
    exact .scalar (expressible_of_readScalar success)

theorem members_succ (reads : ReadsNative fuel) {entries : Entries}
    {result : Entries × List Char} (before : Native (.mapping entries))
    (success : readMembers (fuel + 1) entries text = .ok result) :
    Native (.mapping result.1) := by
  rw [readMembers.eq_def] at success
  dsimp only at success
  split at success
  next =>
    rw [except_bind_eq_ok] at success
    obtain ⟨named, isString, success⟩ := success
    split at success
    next =>
      rw [except_bind_eq_ok] at success
      obtain ⟨read, isValue, success⟩ := success
      have put := native_put before (isString_of_readString isString) (reads.value isValue)
      split at success
      next =>
        cases success
        exact put
      next => exact reads.members put success
      next => cases success
    next => cases success
  next => cases success

theorem items_succ (reads : ReadsNative fuel) {result : List Value × List Char}
    (success : readItems (fuel + 1) text = .ok result) :
    ∀ item ∈ result.1, Native item := by
  rw [readItems.eq_def] at success
  dsimp only at success
  rw [except_bind_eq_ok] at success
  obtain ⟨read, isValue, success⟩ := success
  split at success
  next =>
    cases success
    simpa using reads.value isValue
  next =>
    rw [except_bind_eq_ok] at success
    obtain ⟨others, later, last⟩ := success
    cases last
    intro item member
    rcases List.mem_cons.1 member with rfl | member
    · exact reads.value isValue
    · exact reads.items later item member
  next => cases success

end ReadsNative

/-- What is read is of the kinds that JSON has. The induction is on the fuel that the readers
share. -/
theorem readsNative (fuel : Nat) : ReadsNative fuel := by
  induction fuel with
  | zero =>
      constructor
      · intro text result success
        cases success
      · intro entries text result _ success
        cases success
      · intro text result success
        cases success
  | succ fuel ih => exact ⟨ih.value_succ, ih.members_succ, ih.items_succ⟩

/-- Every value that is read from JSON is of the kinds that JSON has. -/
theorem native_of_read {text : String} {value : Value} (success : read text = .ok value) :
    Native value := by
  rw [read] at success
  cases whole : readText text.toList with
  | error =>
      rw [whole] at success
      cases success
  | ok found =>
      rw [whole] at success
      cases success
      unfold readText at whole
      split at whole
      next => cases whole
      next =>
        rw [except_bind_eq_ok] at whole
        obtain ⟨⟨found, rest⟩, isValue, whole⟩ := whole
        dsimp only at whole
        split at whole
        next =>
          cases whole
          exact (readsNative _).value isValue
        next => cases whole

/-- A value that is read from JSON is one that JSON can express, unless a half of a pair stands
alone in it. -/
theorem expressible_of_read {text : String} {value : Value} (success : read text = .ok value)
    (whole : value.isWhole = true) : Expressible value :=
  (native_of_read success).expressible whole

end RouteTypes.Json
