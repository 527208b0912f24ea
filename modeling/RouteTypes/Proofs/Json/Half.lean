import RouteTypes.Proofs.Check.Success
import RouteTypes.Proofs.Json.Scalar
import RouteTypes.Proofs.Value.Part

/-!
# Halves of pairs in JSON

A half of a pair that stands alone has a JSON form but no encoding. The writer looks for halves in
the whole text, which is put together from pieces: behind a piece without a half the search goes on
with what follows, and in a piece with one it ends (`Scans`). So a half is found exactly where a
text or key of the value holds one (`write_eq_ok_iff`).
-/

namespace RouteTypes

namespace Value

@[simp] theorem areWhole_eq (items : List Value) : areWhole items = items.all isWhole := by
  induction items with
  | nil => rfl
  | cons item rest ih => rw [areWhole, ih, List.all_cons]

@[simp] theorem entriesWhole_eq (entries : Entries) :
    entriesWhole entries = entries.all fun entry => entry.1.isWhole && entry.2.isWhole := by
  induction entries with
  | nil => rfl
  | cons entry rest ih => rw [entriesWhole, ih, List.all_cons]

@[simp] theorem isWhole_scalar (value : Scalar) :
    (Value.scalar value).isWhole = value.isWhole := by
  rw [isWhole]

@[simp] theorem isWhole_list {items : List Value} :
    (Value.list items).isWhole = true ↔ ∀ item ∈ items, item.isWhole = true := by
  rw [isWhole, areWhole_eq, List.all_eq_true]

@[simp] theorem isWhole_tuple {items : List Value} :
    (Value.tuple items).isWhole = true ↔ ∀ item ∈ items, item.isWhole = true := by
  rw [isWhole, areWhole_eq, List.all_eq_true]

@[simp] theorem isWhole_mapping {entries : Entries} :
    (Value.mapping entries).isWhole = true ↔
      ∀ entry ∈ entries, entry.1.isWhole = true ∧ entry.2.isWhole = true := by
  simp [isWhole, entriesWhole_eq]

@[simp] theorem isWhole_ofFields {fields : Fields} :
    (Value.ofFields fields).isWhole = true ↔ ∀ field ∈ fields, field.2.isWhole = true := by
  rw [Value.ofFields, isWhole_mapping, List.forall_mem_map]
  exact forall₂_congr fun _ _ => and_iff_right rfl

end Value

namespace Json

/-! ## Searching pieces of a text -/

/-- A piece of a written text. Where it is whole, no half is found in it and the search goes on
behind it; else one is found. -/
inductive Scans (piece : List Char) : Bool → Prop where
  | whole (passes : ∀ position rest, findHalves position (piece ++ rest) =
      findHalves (position + piece.length) rest) : Scans piece true
  | broken (finds : ∀ position rest, (findHalves position (piece ++ rest)).isSome = true) :
      Scans piece false

namespace Scans

variable {first second piece : List Char} {whole other : Bool}

theorem nil : Scans [] true :=
  .whole fun _ _ => rfl

theorem append (front : Scans first whole) (back : Scans second other) :
    Scans (first ++ second) (whole && other) := by
  cases front with
  | broken finds => exact .broken fun position rest => by rw [List.append_assoc, finds]
  | whole passes =>
      cases back with
      | whole goesOn =>
          refine .whole fun position rest => ?_
          rw [List.append_assoc, passes, goesOn, List.length_append, Nat.add_assoc]
      | broken finds =>
          exact .broken fun position rest => by rw [List.append_assoc, passes, finds]

/-- The search passes a character that is no backslash. -/
theorem plain {c : Char} (noEscape : c ≠ '\\') : Scans [c] true := by
  refine .whole fun position rest => ?_
  rw [List.singleton_append, findHalves]
  · rfl
  · exact fun _ _ _ _ same => absurd same (by simp [noEscape])
  · exact fun _ _ same => absurd same (by simp [noEscape])

theorem ofNotMem (noEscape : '\\' ∉ piece) : Scans piece true := by
  induction piece with
  | nil => exact .nil
  | cons c piece ih =>
      rw [List.mem_cons, not_or] at noEscape
      exact (plain (Ne.symm noEscape.1)).append (ih noEscape.2)

/-- The search passes an escape of two characters. -/
theorem escape {letter : Char} (notHalf : letter ≠ 'u') : Scans ['\\', letter] true := by
  refine .whole fun position rest => ?_
  rw [List.cons_append, List.singleton_append, findHalves]
  · rfl
  · exact fun _ _ _ _ same => absurd same (by simp [notHalf])

/-- The texts of points, of which some may be halves. -/
theorem flatMap {α : Type} {text : α → List Char} {isWhole : α → Bool}
    (each : ∀ item, Scans (text item) (isWhole item)) (items : List α) :
    Scans (items.flatMap text) (items.all isWhole) := by
  induction items with
  | nil => exact .nil
  | cons item rest ih => exact (each item).append ih

end Scans

theorem hexDigit_ne_escape {digit : Nat} (small : digit < 16) : Utf8.hexDigit digit ≠ '\\' := by
  revert digit
  decide

/-- The numeric escape of a control begins with a zero, so it is not taken for that of a half. -/
theorem scans_control {digits : List Char} (noEscape : '\\' ∉ digits) :
    Scans ('\\' :: 'u' :: '0' :: digits) true := by
  refine .whole fun position rest => ?_
  have passes : Scans ('0' :: digits) true := .ofNotMem (by simp [noEscape])
  cases passes with
  | whole goesOn =>
      rw [List.cons_append, List.cons_append, findHalves]
      · rw [goesOn]
        simp only [List.length_cons]
        congr 1
        omega
      · simp

theorem scans_charText (c : Char) : Scans (charText c) true := by
  rcases charText_cases c with ⟨letter, known, isText⟩ | ⟨control, isText⟩ |
    ⟨_, notEscape, _, isText⟩
  · rw [isText]
    refine .escape ?_
    rintro rfl
    cases known
  · rw [isText]
    refine scans_control ?_
    have first : Utf8.hexDigit (c.toNat / 16) ≠ '\\' := hexDigit_ne_escape (by omega)
    have second : Utf8.hexDigit (c.toNat % 16) ≠ '\\' := hexDigit_ne_escape (by omega)
    simp [first.symm, second.symm]
  · rw [isText]
    exact .plain notEscape

/-- The escape of a half begins with the letter that no other escape has there. -/
theorem scans_halfText (offset : Fin 2048) : Scans (halfText offset) false := by
  refine .broken fun position rest => ?_
  have first : (Point.firstHalf + offset.val) / 4096 = 13 := by
    have := offset.isLt
    simp only [Point.firstHalf]
    omega
  have letter : Utf8.hexDigit 13 = 'd' := by decide
  simp [halfText, first, letter, findHalves]

theorem scans_pointText (point : Point) : Scans (pointText point) !point.isHalf := by
  cases point with
  | char c => exact scans_charText c
  | half offset => exact scans_halfText offset

/-- A text between quotes. -/
theorem Scans.quoted {inner : List Char} {whole : Bool} (scans : Scans inner whole) :
    Scans ('"' :: inner ++ ['"']) whole := by
  have quotes := ((Scans.plain (c := '"') (by decide)).append scans).append
    (Scans.plain (c := '"') (by decide))
  simpa using quotes

theorem scans_stringText (text : String) : Scans (stringText text).toList true := by
  have inner := Scans.flatMap scans_charText text.toList
  rw [List.all_eq_true.2 fun _ _ => rfl] at inner
  rw [stringText, String.toList_ofList]
  exact inner.quoted

theorem scans_brokenText (text : BrokenText) : Scans (brokenText text).toList false := by
  have inner := Scans.flatMap scans_pointText text.points
  rw [← List.not_any_eq_all_not, text.broken] at inner
  rw [brokenText, String.toList_ofList]
  exact inner.quoted

/-! ## Numbers -/

section Numbers

open Decimal

theorem small_ofInteger {value digit : Nat} {power : Int}
    (member : digit ∈ (ofInteger value power).digits) : digit < 10 := by
  have small : ∀ digit ∈ digitsOf value, digit < 10 := by
    intro digit member
    obtain ⟨c, isDigit, rfl⟩ := List.mem_map.1 member
    have decimal := Nat.isDigit_of_mem_toDigits (by decide) (by decide) isDigit
    simp only [Char.isDigit, Bool.and_eq_true, decide_eq_true_eq] at decimal
    have upper : c.toNat ≤ 57 := decimal.2
    omega
  unfold ofInteger at member
  dsimp only at member
  split at member
  next => simp at member; omega
  next =>
    refine small digit ?_
    have kept := (List.dropWhile_suffix _).subset (List.mem_reverse.1 member)
    exact List.mem_reverse.1 kept

theorem small_search {interval : Interval} {power : Int} {fuel digit : Nat}
    (member : digit ∈ (interval.search power fuel).digits) : digit < 10 := by
  induction fuel generalizing power with
  | zero => exact small_ofInteger member
  | succ fuel ih =>
      unfold Interval.search at member
      split at member
      next => exact small_ofInteger member
      next => exact ih member

theorem small_shortest {significand digit : Nat} {exponent : Int}
    (member : digit ∈ (shortest significand exponent).digits) : digit < 10 := by
  unfold shortest at member
  split at member
  next => simp at member; omega
  next => exact small_search member

theorem notMem_toDigits (value : Nat) : '\\' ∉ Nat.toDigits 10 value := by
  intro member
  cases Nat.isDigit_of_mem_toDigits (by decide) (by decide) member

theorem notMem_toString_int (value : Int) : '\\' ∉ (toString value).toList := by
  rw [toList_toString_int]
  unfold withSign
  split
  next => simp [notMem_toDigits]
  next => exact notMem_toDigits _

theorem notMem_exponentText (exponent : Int) : '\\' ∉ (exponentText exponent).toList := by
  unfold exponentText
  dsimp only
  rw [String.toList_append, String.toList_append, List.mem_append, List.mem_append]
  rintro ((sign | zero) | size)
  · split at sign <;> simp at sign
  · split at zero <;> simp at zero
  · rw [Nat.toString_eq_repr, Nat.repr, String.toList_ofList] at size
    exact notMem_toDigits _ size

theorem digitChar_ne_escape {digit : Nat} (small : digit < 10) : digitChar digit ≠ '\\' := by
  revert digit
  decide

theorem notMem_render {number : Decimal} (small : ∀ digit ∈ number.digits, digit < 10)
    (layout : Decimal.Layout) : '\\' ∉ (number.render layout).toList := by
  have noEscape : '\\' ∉ number.digits.map digitChar := by
    intro member
    obtain ⟨digit, isDigit, same⟩ := List.mem_map.1 member
    exact digitChar_ne_escape (small digit isDigit) same
  have noExponent := notMem_exponentText (number.point - 1)
  unfold render
  dsimp only
  generalize number.digits.map digitChar = digits at noEscape ⊢
  split
  next =>
    split
    next => simp
    next => simp_all
    next => simp_all
  next =>
  split
  next => simp [noEscape]
  next =>
  split
  next =>
    rw [String.toList_append, String.toList_ofList]
    split <;> simp [noEscape]
  next =>
    have front : '\\' ∉ digits.take number.point.toNat :=
      fun member => noEscape (List.mem_of_mem_take member)
    have back : '\\' ∉ digits.drop number.point.toNat :=
      fun member => noEscape (List.mem_of_mem_drop member)
    simp [front, back]

theorem notMem_shortestText (value : Binary64) : '\\' ∉ value.shortestText.toList := by
  have sign (negative : Bool) : '\\' ∉ (Binary64.signText negative).toList := by
    cases negative <;> decide
  cases value with
  | finite negative significand exponent =>
      rw [Binary64.shortestText, String.toList_append, List.mem_append]
      exact fun member => member.elim (sign negative)
        (notMem_render (fun _ => small_shortest) _)
  | infinite negative => simp [Binary64.shortestText, sign]
  | indeterminate => decide

end Numbers

/-! ## Texts of values -/

theorem scans_scalarText {scalar : Scalar} {text : String}
    (written : scalarText scalar = .ok text) : Scans text.toList scalar.isWhole := by
  cases scalar with
  | text value =>
      cases written
      exact scans_stringText value
  | broken value =>
      cases written
      exact scans_brokenText value
  | null =>
      cases written
      exact .ofNotMem (by decide)
  | bool value => cases value <;> cases written <;> exact .ofNotMem (by decide)
  | int value =>
      rw [scalarText, integerText] at written
      split at written
      next => cases written
      next =>
        cases written
        exact .ofNotMem (notMem_toString_int value)
  | float value =>
      cases written
      cases value with
      | finite => exact .ofNotMem (notMem_shortestText _)
      | infinite negative => cases negative <;> exact .ofNotMem (by decide)
      | indeterminate => exact .ofNotMem (by decide)
  | date | timestamp | bytes => cases written

theorem scans_keyText {key : Scalar} {text : String} (written : keyText key = .ok text) :
    Scans text.toList key.isWhole := by
  cases key with
  | text name =>
      cases written
      exact scans_stringText name
  | broken name =>
      cases written
      exact scans_brokenText name
  | null | float =>
      cases written
      exact scans_stringText _
  | bool value => cases value <;> cases written <;> exact scans_stringText _
  | int value =>
      rw [keyText] at written
      cases shown : integerText value with
      | error =>
          rw [shown] at written
          cases written
      | ok text =>
          rw [shown] at written
          cases written
          exact scans_stringText text
  | date | timestamp | bytes => cases written

section Writing

variable {layout : Layout} {depth outer : Nat}

theorem scans_lineBreak (layout : Layout) (depth : Nat) :
    Scans (lineBreak layout depth).toList true := by
  cases layout with
  | line => exact .nil
  | indented width =>
      refine .ofNotMem ?_
      simp [lineBreak]

theorem scans_separator (layout : Layout) (depth : Nat) :
    Scans (separator layout depth).toList true := by
  cases layout with
  | line => exact .ofNotMem (by simp [separator])
  | indented width =>
      rw [separator, String.toList_append]
      exact (Scans.ofNotMem (by decide)).append (scans_lineBreak _ depth)

/-- Pieces, each with whether it is whole. -/
theorem scans_intercalate {mark : String} (passes : Scans mark.toList true) {α : Type}
    {isWhole : α → Bool} {items : List α} {texts : List String}
    (parts : List.Forall₂ (fun item text => Scans text.toList (isWhole item)) items texts) :
    Scans (mark.intercalate texts).toList (items.all isWhole) := by
  induction parts with
  | nil => exact .nil
  | @cons item text items texts first others ih =>
      cases others with
      | nil =>
          rw [String.intercalate_singleton]
          simpa using first
      | cons =>
          rw [String.intercalate_cons_cons, String.toList_append, String.toList_append,
            List.all_cons]
          simpa using (first.append passes).append ih

theorem scans_enclosed {opening closing : String} (opens : Scans opening.toList true)
    (closes : Scans closing.toList true) {α : Type} {isWhole : α → Bool} {items : List α}
    {texts : List String}
    (parts : List.Forall₂ (fun item text => Scans text.toList (isWhole item)) items texts) :
    Scans (enclosed layout depth opening closing texts).toList (items.all isWhole) := by
  unfold enclosed
  split
  next empty =>
    cases parts with
    | nil =>
        rw [String.toList_append]
        exact opens.append closes
    | cons => cases empty
  next =>
    have inner := scans_intercalate (scans_separator layout (depth + 1)) parts
    have text := (((opens.append (scans_lineBreak layout (depth + 1))).append inner).append
      (scans_lineBreak layout depth)).append closes
    simpa using text

/-- A relation of two lists, part by part, gives every other one that it implies for the parts. -/
theorem forall₂_imp_of_mem {α β : Type} {related other : α → β → Prop} {left : List α}
    {right : List β} (parts : List.Forall₂ related left right)
    (each : ∀ item ∈ left, ∀ image, related item image → other item image) :
    List.Forall₂ other left right := by
  induction parts with
  | nil => exact .nil
  | @cons item image left right first _ ih =>
      exact .cons (each item List.mem_cons_self image first)
        (ih fun item member => each item (List.mem_cons_of_mem _ member))

theorem writeItems_eq_mapM (items : List Value) :
    writeItems layout depth items = items.mapM (writeAt layout depth) := by
  induction items with
  | nil => rfl
  | cons item rest ih => rw [writeItems, ih, List.mapM_cons]

/-- The text of an entry of a mapping. -/
def writeEntry (layout : Layout) (depth : Nat) (entry : Scalar × Value) :
    Except Unwritable String := do
  let name ← keyText entry.1
  return name ++ ": " ++ (← writeAt layout depth entry.2)

theorem writeEntries_eq_mapM (entries : Entries) :
    writeEntries layout depth entries = entries.mapM (writeEntry layout depth) := by
  induction entries with
  | nil => rfl
  | cons entry rest ih =>
      rw [writeEntries, ih, List.mapM_cons, writeEntry]
      simp only [bind_assoc, pure_bind]

@[simp] theorem writeItems_eq_ok {items : List Value} {texts : List String} :
    writeItems layout depth items = .ok texts ↔
      List.Forall₂ (fun item text => writeAt layout depth item = .ok text) items texts := by
  rw [writeItems_eq_mapM, except_mapM_eq_ok]

@[simp] theorem writeEntry_eq_ok {entry : Scalar × Value} {text : String} :
    writeEntry layout depth entry = .ok text ↔ ∃ name inner, keyText entry.1 = .ok name ∧
      writeAt layout depth entry.2 = .ok inner ∧ text = name ++ ": " ++ inner := by
  simp only [writeEntry, except_bind_eq_ok]
  constructor
  · rintro ⟨name, named, inner, written, same⟩
    cases same
    exact ⟨name, inner, named, written, rfl⟩
  · rintro ⟨name, inner, named, written, rfl⟩
    exact ⟨name, named, inner, written, rfl⟩

@[simp] theorem writeEntries_eq_ok {entries : Entries} {texts : List String} :
    writeEntries layout depth entries = .ok texts ↔
      List.Forall₂ (fun entry text => ∃ name inner, keyText entry.1 = .ok name ∧
        writeAt layout depth entry.2 = .ok inner ∧ text = name ++ ": " ++ inner)
        entries texts := by
  simp only [writeEntries_eq_mapM, except_mapM_eq_ok, writeEntry_eq_ok]

theorem scans_items {items : List Value} {texts : List String}
    (written : writeItems layout depth items = .ok texts)
    (each : ∀ item ∈ items, ∀ text, writeAt layout depth item = .ok text →
      Scans text.toList item.isWhole) :
    Scans (enclosed layout outer "[" "]" texts).toList (items.all Value.isWhole) :=
  scans_enclosed (.ofNotMem (by decide)) (.ofNotMem (by decide))
    (forall₂_imp_of_mem (writeItems_eq_ok.1 written) each)

/-- In the text of a value a half is found exactly where the value holds one. -/
theorem scans_writeAt {value : Value} {text : String}
    (written : writeAt layout depth value = .ok text) : Scans text.toList value.isWhole := by
  induction value using Value.inductionOnParts generalizing depth text with
  | scalar value =>
      rw [Value.isWhole_scalar]
      exact scans_scalarText written
  | set => cases written
  | list items ih =>
      rw [writeAt, except_bind_eq_ok] at written
      obtain ⟨texts, inner, written⟩ := written
      cases written
      rw [Value.isWhole, Value.areWhole_eq]
      exact scans_items inner fun item member text => ih item member
  | tuple items ih =>
      rw [writeAt, except_bind_eq_ok] at written
      obtain ⟨texts, inner, written⟩ := written
      cases written
      rw [Value.isWhole, Value.areWhole_eq]
      exact scans_items inner fun item member text => ih item member
  | mapping entries ih =>
      rw [writeAt, except_bind_eq_ok] at written
      obtain ⟨texts, inner, written⟩ := written
      cases written
      rw [Value.isWhole, Value.entriesWhole_eq]
      refine scans_enclosed (.ofNotMem (by decide)) (.ofNotMem (by decide))
        (forall₂_imp_of_mem (writeEntries_eq_ok.1 inner) ?_)
      rintro entry member _ ⟨name, text, named, shown, rfl⟩
      have colon : '\\' ∉ ": ".toList := by decide
      have scans := ((scans_keyText named).append (.ofNotMem colon)).append (ih entry member shown)
      simpa using scans

theorem isNone_findHalves {text : List Char} {whole : Bool} (scans : Scans text whole) :
    (findHalves 0 text).isNone = whole := by
  cases scans with
  | whole passes =>
      have found := passes 0 []
      rw [List.append_nil] at found
      rw [found]
      rfl
  | broken finds =>
      have found := finds 0 []
      rw [List.append_nil, Option.isSome_iff_exists] at found
      obtain ⟨fault, found⟩ := found
      rw [found]
      rfl

/-- A value is written as the text that it has, where no half of a pair stands alone in it. -/
@[simp] theorem write_eq_ok_iff {value : Value} {text : String} :
    write layout value = .ok text ↔
      writeAt layout 0 value = .ok text ∧ value.isWhole = true := by
  rw [write]
  cases written : writeAt layout 0 value with
  | error => simp [bind, Except.bind]
  | ok whole =>
      have found := isNone_findHalves (scans_writeAt written)
      cases isWhole : value.isWhole with
      | true => simp [bind, Except.bind, pure, Except.pure]
      | false =>
          rw [isWhole, Option.isNone_eq_false_iff, Option.isSome_iff_exists] at found
          obtain ⟨fault, found⟩ := found
          simp [bind, Except.bind, found, throw, throwThe, MonadExceptOf.throw]

/-- Where a half of a pair stands alone in a value, it is all that keeps the value from being
written. -/
theorem write_eq_error_iff {value : Value} {cause : Unwritable} :
    write layout value = .error cause ↔
      writeAt layout 0 value = .error cause ∨
        value.isWhole = false ∧ ∃ text fault, writeAt layout 0 value = .ok text ∧
          findHalves 0 text.toList = some fault ∧ cause = .half fault := by
  rw [write]
  cases written : writeAt layout 0 value with
  | error => simp [bind, Except.bind]
  | ok whole =>
      have found := isNone_findHalves (scans_writeAt written)
      cases isWhole : value.isWhole with
      | true => simp [bind, Except.bind, pure, Except.pure]
      | false =>
          rw [isWhole, Option.isNone_eq_false_iff, Option.isSome_iff_exists] at found
          obtain ⟨fault, found⟩ := found
          simp [bind, Except.bind, found, throw, throwThe, MonadExceptOf.throw, eq_comm]

end Writing

end Json

end RouteTypes
