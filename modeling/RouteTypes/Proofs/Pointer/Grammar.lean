import RouteTypes.Failure
import RouteTypes.Proofs.Check.Success
import RouteTypes.Proofs.FilePath
import RouteTypes.Proofs.Number.Integer
import RouteTypes.Proofs.Pointer.Selection

/-!
# The grammar of pointers

RFC 6901 says how a pointer is written and what each of its tokens selects: in a mapping the entry
whose key it escapes, in a list the item whose position it is in decimal. A pointer is resolved by
laxer rules. A tilde that escapes nothing stands for itself, and a position may be the text of any
integer, where a negative one counts from the end. So a pointer that selects a value selects it by
the standard exactly if each of its tokens is written by the standard (`resolve_eq_ok_iff`).
-/

namespace RouteTypes

namespace Text

theorem splitOn_of_not_mem {mark : Char} {text : List Char} (absent : mark ∉ text) :
    splitOn mark text = [text] := by
  induction text with
  | nil => rfl
  | cons c rest ih =>
      rw [List.mem_cons, not_or] at absent
      rw [splitOn, if_neg (by simpa using Ne.symm absent.1), ih absent.2]

theorem splitOn_append {mark : Char} {text : List Char} (absent : mark ∉ text)
    (behind : List Char) : splitOn mark (text ++ mark :: behind) = text :: splitOn mark behind := by
  induction text with
  | nil => rw [List.nil_append, splitOn, if_pos (by simp)]
  | cons c rest ih =>
      rw [List.mem_cons, not_or] at absent
      rw [List.cons_append, splitOn, if_neg (by simpa using Ne.symm absent.1), ih absent.2]

end Text

namespace Pointer

/-! ## Tokens -/

/-- The text is a pointer made of these tokens, with a slash in front of each. -/
structure Made (tokens : List (List Char)) (text : List Char) : Prop where
  joined : tokens.flatMap ('/' :: ·) = text
  whole : ∀ token ∈ tokens, '/' ∉ token

theorem splitOn_joined {token : List Char} {others : List (List Char)}
    (whole : ∀ part ∈ token :: others, '/' ∉ part) :
    Text.splitOn '/' (token ++ others.flatMap ('/' :: ·)) = token :: others := by
  induction others generalizing token with
  | nil =>
      rw [List.flatMap_nil, List.append_nil, Text.splitOn_of_not_mem (whole _ List.mem_cons_self)]
  | cons next rest ih =>
      rw [List.flatMap_cons, List.cons_append, Text.splitOn_append (whole _ List.mem_cons_self),
        ih fun part member => whole part (List.mem_cons_of_mem _ member)]

theorem joined_splitOn (text : List Char) :
    (Text.splitOn '/' text).flatMap ('/' :: ·) = '/' :: text := by
  have joined {tokens : List (List Char)} (some : tokens ≠ []) :
      tokens.flatMap ('/' :: ·) = '/' :: Text.joinWith '/' tokens := by
    induction tokens with
    | nil => exact absurd rfl some
    | cons token rest ih =>
        cases rest with
        | nil => simp [Text.joinWith]
        | cons next others =>
            have several : next :: others ≠ [] := by simp
            rw [List.flatMap_cons, ih several, Text.joinWith_cons _ token several, List.cons_append]
  rw [joined (Text.splitOn_ne_nil _ _), Text.joinWith_splitOn]

/-- A text has the tokens of at most one pointer, and its segments are these tokens without
escapes. -/
@[simp] theorem segments?_eq_some {text : List Char} {segments : List String} :
    segments? text = some segments ↔
      ∃ tokens, Made tokens text ∧ tokens.map (fun token => String.ofList (unescape token)) =
        segments := by
  constructor
  · intro found
    cases text with
    | nil =>
        cases found
        exact ⟨[], ⟨rfl, nofun⟩, rfl⟩
    | cons c rest =>
        by_cases slash : c = '/'
        · subst slash
          cases found
          exact ⟨_, ⟨joined_splitOn rest, fun _ => Text.not_mem_of_mem_splitOn⟩, rfl⟩
        · simp [segments?, slash] at found
  · rintro ⟨tokens, ⟨rfl, whole⟩, rfl⟩
    cases tokens with
    | nil => rfl
    | cons token others =>
        rw [List.flatMap_cons, List.cons_append, segments?, splitOn_joined whole]

theorem Made.tokens_eq {tokens others : List (List Char)} {text : List Char}
    (made : Made tokens text) (alsoMade : Made others text) : tokens = others := by
  obtain ⟨rfl, whole⟩ := made
  obtain ⟨same, alsoWhole⟩ := alsoMade
  cases tokens with
  | nil =>
      cases others with
      | nil => rfl
      | cons => cases same
  | cons token rest =>
      cases others with
      | nil => cases same
      | cons other behind =>
          have inner := (List.cons.inj same).2
          exact (splitOn_joined whole).symm.trans
            ((congrArg (Text.splitOn '/') inner.symm).trans (splitOn_joined alsoWhole))

/-! ## Keys and escapes -/

/-- The token that a key is written as: tildes and slashes are escaped. -/
inductive Escaped : List Char → List Char → Prop where
  | nil : Escaped [] []
  | plain {c : Char} {key token : List Char} (noTilde : c ≠ '~') (noSlash : c ≠ '/')
      (others : Escaped key token) : Escaped (c :: key) (c :: token)
  | tilde {key token : List Char} (others : Escaped key token) :
      Escaped ('~' :: key) ('~' :: '0' :: token)
  | slash {key token : List Char} (others : Escaped key token) :
      Escaped ('/' :: key) ('~' :: '1' :: token)

theorem unescape_cons {c : Char} (noTilde : c ≠ '~') (rest : List Char) :
    unescape (c :: rest) = c :: unescape rest := by
  rw [unescape]
  · exact fun _ isTilde _ => noTilde isTilde
  · exact fun _ isTilde _ => noTilde isTilde

theorem unescape_of_escaped {key token : List Char} (escaped : Escaped key token) :
    unescape token = key := by
  induction escaped with
  | nil => rfl
  | plain noTilde _ _ ih => rw [unescape_cons noTilde, ih]
  | tilde _ ih => rw [unescape, ih]
  | slash _ ih => rw [unescape, ih]

theorem unescape_of_not_mem {token : List Char} (plain : '~' ∉ token) : unescape token = token := by
  induction token with
  | nil => rfl
  | cons c rest ih =>
      rw [List.mem_cons, not_or] at plain
      rw [unescape_cons (Ne.symm plain.1), ih plain.2]

theorem ne_mark_of_toDigits {number : Nat} {mark : Char} (noDigit : mark.isDigit = false) :
    mark ∉ Nat.toDigits 10 number := by
  intro member
  have digit := Nat.isDigit_of_mem_toDigits (by decide) (by decide) member
  rw [noDigit] at digit
  cases digit

/-- A position in decimal has nothing to unescape. -/
@[simp] theorem unescape_toDigits (position : Nat) :
    unescape (Nat.toDigits 10 position) = Nat.toDigits 10 position :=
  unescape_of_not_mem (ne_mark_of_toDigits rfl)

/-! ## Steps -/

/-- What a token selects by the standard: the entry whose key it escapes, or the item whose
position it is in decimal. -/
inductive Standard : List Char → Value → Value → Prop where
  | entry {token : List Char} {name : String} {entries : Entries} {child : Value}
      (escaped : Escaped name.toList token)
      (found : Entries.get? entries (.text name) = some child) :
      Standard token (.mapping entries) child
  | item {items : List Value} {position : Nat} {child : Value}
      (found : items[position]? = some child) :
      Standard (Nat.toDigits 10 position) (.list items) child

/-- The item at an index, which is counted from the end where it is negative. -/
inductive Picks (items : List Value) : Int → Value → Prop where
  | front {position : Nat} {child : Value} (found : items[position]? = some child) :
      Picks items position child
  | back {distance : Nat} {child : Value} (positive : 0 < distance)
      (inside : distance ≤ items.length) (found : items[items.length - distance]? = some child) :
      Picks items (-distance) child

/-- What a token selects here: the entry with the key that is left when the escapes in the token
are undone, or the item at the index of which it is a text. -/
inductive Lax : List Char → Value → Value → Prop where
  | entry {token : List Char} {entries : Entries} {child : Value}
      (found : Entries.get? entries (.text (String.ofList (unescape token))) = some child) :
      Lax token (.mapping entries) child
  | item {token : List Char} {items : List Value} {index : Int} {child : Value}
      (read : Number.IntegerText (unescape token) index) (picked : Picks items index child) :
      Lax token (.list items) child

/-- The token is written by the standard for a value of this kind. -/
def Proper : Value → List Char → Prop
  | .mapping _, token => ∃ key, Escaped key token
  | .list _, token => ∃ position, token = Nat.toDigits 10 position
  | _, _ => True

variable {token : List Char} {current next other : Value}

@[simp] theorem item?_eq_some {items : List Value} {index : Int} :
    item? items index = some next ↔ Picks items index next := by
  constructor
  · intro found
    cases index with
    | ofNat position => exact .front (by simpa [item?] using found)
    | negSucc distance =>
        rw [item?, if_neg (by omega)] at found
        split at found
        next inside => exact .back (Nat.succ_pos distance) inside found
        next => cases found
  · intro picked
    cases picked with
    | front found => simpa [item?] using found
    | @back distance _ positive inside found =>
        have size : (-(distance : Int)).natAbs = distance := by omega
        rw [item?, if_neg (by omega), size, if_pos inside]
        exact found

theorem elim_eq_ok {α ε : Type} {found : Option α} {fault : ε} {value : α} :
    found.elim (.error fault) .ok = (.ok value : Except ε α) ↔ found = some value := by
  cases found <;> simp

theorem toOption_eq_some {α ε : Type} {outcome : Except ε α} {value : α} :
    outcome.toOption = some value ↔ outcome = .ok value := by
  cases outcome <;> simp [Except.toOption]

@[simp] theorem step_eq_ok :
    step current (String.ofList (unescape token)) = .ok next ↔ Lax token current next := by
  cases current with
  | mapping entries =>
      rw [step_mapping, elim_eq_ok]
      constructor
      · exact .entry
      · rintro ⟨found⟩
        exact found
  | list items =>
      rw [step_list, elim_eq_ok, Option.bind_eq_some_iff]
      simp only [toOption_eq_some, Number.readInteger_eq_ok_iff, String.toList_ofList,
        item?_eq_some]
      constructor
      · rintro ⟨index, read, picked⟩
        exact .item read picked
      · rintro ⟨⟩
        exact ⟨_, ‹_›, ‹_›⟩
  | scalar | tuple | set => constructor <;> rintro ⟨⟩

/-! ## Ways -/

/-- Several tokens select a value one after the other, each by the given rule. -/
inductive Along (rule : List Char → Value → Value → Prop) :
    Value → List (List Char) → Value → Prop where
  | here (value : Value) : Along rule value [] value
  | step {token : List Char} {rest : List (List Char)} {current next value : Value}
      (first : rule token current next) (further : Along rule next rest value) :
      Along rule current (token :: rest) value

/-- The text is a pointer that selects a value of a document by the given rule for its tokens. -/
def Selects (rule : List Char → Value → Value → Prop) (document value : Value)
    (text : List Char) : Prop :=
  ∃ tokens, Made tokens text ∧ Along rule document tokens value

theorem foldlM_step_eq_ok {document value : Value} {tokens : List (List Char)} :
    (tokens.map fun token => String.ofList (unescape token)).foldlM step document = .ok value ↔
      Along Lax document tokens value := by
  induction tokens generalizing document with
  | nil =>
      constructor
      · intro same
        cases same
        exact .here _
      · rintro ⟨⟩
        rfl
  | cons token rest ih =>
      rw [List.map_cons, List.foldlM_cons, except_bind_eq_ok]
      simp only [step_eq_ok, ih]
      constructor
      · rintro ⟨next, first, further⟩
        exact .step first further
      · rintro ⟨⟩
        exact ⟨_, ‹_›, ‹_›⟩

/-- What a pointer is resolved to. -/
@[simp] theorem resolve_eq_ok {document value : Value} {pointer : String} :
    resolve document pointer = .ok value ↔
      Selects Lax document value (Text.percentDecode pointer).toList := by
  unfold resolve
  constructor
  · intro success
    split at success
    next segments found =>
      obtain ⟨tokens, made, rfl⟩ := segments?_eq_some.1 found
      exact ⟨tokens, made, foldlM_step_eq_ok.1 success⟩
    next => cases success
  · rintro ⟨tokens, made, along⟩
    rw [segments?_eq_some.2 ⟨tokens, made, rfl⟩]
    exact foldlM_step_eq_ok.2 along

/-! ## The standard among the laxer rules -/

/-- A position in decimal is the text of no other integer. -/
theorem index_of_toDigits {position : Nat} {index : Int}
    (read : Number.IntegerText (Nat.toDigits 10 position) index) : index = position := by
  obtain ⟨values, numeral, total, _⟩ := Number.exists_numeral position
  have success : Number.readInteger 10 (String.ofList (Nat.toDigits 10 position)) = .ok index :=
    Number.readInteger_eq_ok_iff.2 (by rwa [String.toList_ofList])
  obtain ⟨negative, unsigned, otherTotal, size, split, digits, _, rfl⟩ :=
    Number.readInteger_ten.1 success
  have visible : Number.trimMargins (Nat.toDigits 10 position) = Nat.toDigits 10 position := by
    have trimmed := @Number.trimMargins_of [] _ [] nofun nofun
      (Number.exists_first_of_numeral .none numeral) (Number.exists_last_of_numeral numeral)
    simpa using trimmed
  have unsignedSplit := Number.splitSign_of_numeral .none numeral
  rw [Number.plain_eq, String.toList_ofList, visible] at split
  rw [List.nil_append] at unsignedSplit
  cases split.symm.trans unsignedSplit
  cases digits.symm.trans (Number.digits?_eq_some.2 ⟨_, Number.numeral_map.2 numeral, rfl, rfl⟩)
  rw [total]
  rfl

theorem Standard.proper (standard : Standard token current next) : Proper current token := by
  cases standard with
  | entry escaped found => exact ⟨_, escaped⟩
  | item found => exact ⟨_, rfl⟩

/-- What a token that is written by the standard selects here, it selects by the standard. -/
theorem Lax.standard (lax : Lax token current next) (proper : Proper current token) :
    Standard token current next := by
  cases lax with
  | entry found =>
      obtain ⟨key, escaped⟩ := proper
      rw [unescape_of_escaped escaped] at found
      exact .entry (by rwa [String.toList_ofList]) found
  | item read picked =>
      obtain ⟨position, rfl⟩ := proper
      rw [unescape_toDigits] at read
      rw [index_of_toDigits read, ← item?_eq_some] at picked
      exact .item (by simpa [item?] using picked)

/-- What a token selects by the standard it selects here, if the positions in the list can be read
as numbers. -/
theorem Standard.lax (standard : Standard token current next)
    (countable : ∀ items, current = .list items → items.length ≤ 10 ^ Number.maxDigits) :
    Lax token current next := by
  cases standard with
  | entry escaped found =>
      refine .entry ?_
      rwa [unescape_of_escaped escaped, String.ofList_toList]
  | @item items position _ found =>
      have inside : position < items.length := (List.getElem?_eq_some_iff.1 found).1
      refine .item ?_ (.front found)
      rw [unescape_toDigits]
      exact Number.integerText_toDigits (Nat.lt_of_lt_of_le inside (countable items rfl))

/-- A token selects nothing else by the standard than here. -/
theorem Standard.next_eq (standard : Standard token current next)
    (lax : Lax token current other) : next = other := by
  cases standard with
  | entry escaped found =>
      cases lax with
      | entry alsoFound =>
          rw [unescape_of_escaped escaped, String.ofList_toList] at alsoFound
          exact Option.some.inj (found.symm.trans alsoFound)
  | item found =>
      cases lax with
      | item read picked =>
          rw [unescape_toDigits] at read
          rw [index_of_toDigits read, ← item?_eq_some] at picked
          exact Option.some.inj (found.symm.trans (by simpa [item?] using picked))

section

variable {rule : List Char → Value → Value → Prop} {document value : Value}

theorem along_append {before behind : List (List Char)} :
    Along rule document (before ++ behind) value ↔
      ∃ middle, Along rule document before middle ∧ Along rule middle behind value := by
  induction before generalizing document with
  | nil =>
      constructor
      · exact fun along => ⟨_, .here _, along⟩
      · rintro ⟨_, ⟨⟩, along⟩
        exact along
  | cons token rest ih =>
      constructor
      · rintro ⟨⟩
        next first further =>
          obtain ⟨middle, reached, along⟩ := ih.1 further
          exact ⟨middle, .step first reached, along⟩
      · rintro ⟨middle, ⟨⟩, along⟩
        next first further => exact .step first (ih.2 ⟨middle, further, along⟩)

end

/-- By the standard the same value is reached as here. -/
theorem Along.value_eq {tokens : List (List Char)} {document value reached : Value}
    (standard : Along Standard document tokens value) (lax : Along Lax document tokens reached) :
    value = reached := by
  induction standard with
  | here =>
      cases lax
      rfl
  | step first _ ih =>
      cases lax with
      | step alsoFirst further =>
          cases first.next_eq alsoFirst
          exact ih further

/-- Each token of a pointer is written by the standard for the value that it is applied to. -/
def Conforms (document : Value) (tokens : List (List Char)) : Prop :=
  ∀ before token behind current, tokens = before ++ token :: behind →
    Along Lax document before current → Proper current token

/-- Where the tokens select a value, they select it by the standard exactly if each of them is
written by it. -/
theorem along_standard_iff {tokens : List (List Char)} {document value : Value}
    (along : Along Lax document tokens value) :
    Along Standard document tokens value ↔ Conforms document tokens := by
  constructor
  · rintro standard before token behind current rfl reached
    obtain ⟨middle, alsoReached, others⟩ := along_append.1 standard
    cases alsoReached.value_eq reached
    cases others with
    | step first _ => exact first.proper
  · intro conforms
    induction along with
    | here => exact .here _
    | @step token rest current next value first _ ih =>
        refine .step (first.standard (conforms [] token rest current rfl (.here _))) (ih ?_)
        rintro before other behind reached rfl further
        exact conforms (token :: before) other behind reached rfl (.step first further)

/-- A pointer selects what its tokens select one after the other by the laxer rules, and all others
are refused as faults of the contract. It selects its value by the standard exactly if each of its
tokens is written by the standard. -/
theorem resolve_eq_ok_iff (document : Value) (pointer : String) :
    let written := (Text.percentDecode pointer).toList
    (∀ value, resolve document pointer = .ok value ↔ Selects Lax document value written) ∧
    (∀ value, resolve document pointer = .ok value →
      (Selects Standard document value written ↔
        ∀ tokens, Made tokens written → Conforms document tokens)) ∧
    ((¬∃ value, Selects Lax document value written) →
      ∃ fault, resolve document pointer = .error fault ∧
        ∀ reference, (Failure.reference (.pointer reference fault)).category = .contract) := by
  refine ⟨fun _ => resolve_eq_ok, ?_, ?_⟩
  · intro value success
    obtain ⟨tokens, made, along⟩ := resolve_eq_ok.1 success
    constructor
    · rintro ⟨others, standardMade, standard⟩ same alsoMade
      obtain rfl := made.tokens_eq standardMade
      obtain rfl := made.tokens_eq alsoMade
      exact (along_standard_iff along).1 standard
    · exact fun conforms => ⟨tokens, made, (along_standard_iff along).2 (conforms tokens made)⟩
  · intro nothing
    cases outcome : resolve document pointer with
    | ok value => exact absurd ⟨value, resolve_eq_ok.1 outcome⟩ nothing
    | error fault => exact ⟨fault, rfl, fun _ => rfl⟩

/-- A position with a zero in front is accepted and does not conform, and one behind the end of the
list is refused. -/
theorem resolve_eq_ok_iff_list :
    let document : Value := .mapping [(.text "list", .list [.text "a", .text "b"])]
    resolve document "/list/01" = .ok (.text "b") ∧
      ¬Selects Standard document (.text "b") (Text.percentDecode "/list/01").toList ∧
      ∃ fault, resolve document "/list/2" = .error fault ∧
        ∀ reference, (Failure.reference (.pointer reference fault)).category = .contract := by
  intro document
  refine ⟨rfl, ?_, (resolve_eq_ok_iff document "/list/2").2.2 ?_⟩
  · intro standard
    have parts : Made [['l', 'i', 's', 't'], ['0', '1']] (Text.percentDecode "/list/01").toList :=
      ⟨rfl, by decide⟩
    have conforms :=
      ((resolve_eq_ok_iff document "/list/01").2.1 (.text "b") rfl).1 standard _ parts
    obtain ⟨position, same⟩ := conforms [['l', 'i', 's', 't']] ['0', '1'] []
      (.list [.text "a", .text "b"]) rfl (.step (step_eq_ok.1 rfl) (.here _))
    have success : Number.readInteger 10 "01" = .ok 1 := rfl
    have read : Number.IntegerText ['0', '1'] 1 := Number.readInteger_eq_ok_iff.1 success
    rw [same] at read
    cases Int.ofNat_inj.1 (index_of_toDigits read)
    exact absurd same (by decide)
  · rintro ⟨value, selected⟩
    cases resolve_eq_ok.2 selected

/-- An index that is counted from the end is no position of the standard. -/
theorem negative_index_accepted :
    let document : Value := .mapping [(.text "list", .list [.text "a", .text "b"])]
    resolve document "/list/-1" = .ok (.text "b") ∧
      ¬Selects Standard document (.text "b") (Text.percentDecode "/list/-1").toList := by
  refine ⟨rfl, ?_⟩
  rintro ⟨tokens, made, along⟩
  have parts : Made [['l', 'i', 's', 't'], ['-', '1']] (Text.percentDecode "/list/-1").toList :=
    ⟨rfl, by decide⟩
  obtain rfl := made.tokens_eq parts
  cases along with
  | step first further =>
      cases first.next_eq (step_eq_ok.1 rfl)
      cases further with
      | step second _ =>
          obtain ⟨position, same⟩ := second.proper
          have unsigned : '-' ∉ Nat.toDigits 10 position := ne_mark_of_toDigits rfl
          exact unsigned (same ▸ List.mem_cons_self)

end Pointer

end RouteTypes
