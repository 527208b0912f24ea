import RouteTypes.Proofs.Json.Half

/-!
# Reading what was written

Whatever the layout, the text of a value is read as what JSON keeps of the value
(`read_write`): tuples become lists, and the keys of mappings become texts. What has halves of pairs
in it is not written, so nothing is said about halves here.
-/

namespace RouteTypes.Json

open Value

/-! ## What is kept of a value -/

/-- What a key becomes. Dates, timestamps and bytes are no keys of JSON. -/
def decodedKey : Scalar → Scalar
  | .null => .text "null"
  | .bool true => .text "true"
  | .bool false => .text "false"
  | .int value => .text (toString value)
  | .float value => .text (floatText value)
  | key => key

mutual

/-- What is kept of a value that is written and read again. Where keys become equal, the first
position and the last value count. -/
def decoded : Value → Value
  | .scalar value => .scalar value
  | .list items => .list (decodedItems items)
  | .tuple items => .list (decodedItems items)
  | .set items => .set items
  | .mapping entries => .mapping (Entries.putAll [] (decodedEntries entries))

/-- What is kept of the items of a list. -/
def decodedItems : List Value → List Value
  | [] => []
  | item :: rest => decoded item :: decodedItems rest

/-- What is kept of the entries of a mapping. -/
def decodedEntries : List (Scalar × Value) → List (Scalar × Value)
  | [] => []
  | (key, value) :: rest => (decodedKey key, decoded value) :: decodedEntries rest

end

@[simp] theorem decodedItems_eq (items : List Value) : decodedItems items = items.map decoded := by
  induction items with
  | nil => rfl
  | cons item rest ih => rw [decodedItems, ih, List.map_cons]

@[simp] theorem decodedEntries_eq (entries : Entries) :
    decodedEntries entries =
      entries.map fun entry => (decodedKey entry.1, decoded entry.2) := by
  induction entries with
  | nil => rfl
  | cons entry rest ih => rw [decodedEntries, ih, List.map_cons]

/-- A key that is written without halves of pairs becomes a text. -/
theorem keyText_eq_ok {key : Scalar} {text : String} (written : keyText key = .ok text)
    (whole : key.isWhole = true) :
    ∃ name, decodedKey key = .text name ∧ text = stringText name := by
  cases key with
  | null | float | text =>
      cases written
      exact ⟨_, rfl, rfl⟩
  | bool value => cases value <;> cases written <;> exact ⟨_, rfl, rfl⟩
  | int value =>
      rw [keyText, integerText] at written
      split at written
      next => cases written
      next =>
        cases written
        exact ⟨_, rfl, rfl⟩
  | broken => cases whole
  | date | timestamp | bytes => cases written

/-! ## Blank characters between items -/

section Layouts

variable (layout : Layout) (depth : Nat)

@[simp] theorem skipSpace_cons {c : Char} (space : isSpace c) (text : List Char) :
    skipSpace (c :: text) = skipSpace text := by
  simp [skipSpace, space]

@[simp] theorem skipSpace_replicate (count : Nat) (text : List Char) :
    skipSpace (List.replicate count ' ' ++ text) = skipSpace text := by
  induction count with
  | zero => rfl
  | succ count ih =>
      rw [List.replicate_succ, List.cons_append, skipSpace_cons rfl, ih]

@[simp] theorem skipSpace_lineBreak (text : List Char) :
    skipSpace ((lineBreak layout depth).toList ++ text) = skipSpace text := by
  cases layout with
  | line => rfl
  | indented width =>
      simp only [lineBreak, String.toList_append, String.toList_ofList, List.append_assoc]
      exact (skipSpace_cons rfl _).trans (skipSpace_replicate _ _)

/-- A separator is a comma and what a reader skips. -/
theorem separator_eq :
    ∃ blank, (separator layout depth).toList = ',' :: blank ∧
      ∀ text, skipSpace (blank ++ text) = skipSpace text := by
  cases layout with
  | line => exact ⟨[' '], by simp [separator], fun text => skipSpace_cons rfl text⟩
  | indented width =>
      refine ⟨(lineBreak (.indented width) depth).toList, ?_, skipSpace_lineBreak _ _⟩
      rw [separator, String.toList_append]
      rfl

theorem ended_lineBreak {c : Char} (mark : c ∈ marks) (rest : List Char) :
    Ended ((lineBreak layout depth).toList ++ c :: rest) := by
  cases layout with
  | line => simpa [lineBreak] using mark
  | indented width =>
      rw [lineBreak, String.toList_append, List.append_assoc]
      exact ended_cons.2 (by decide)

end Layouts

/-! ## Texts of values -/

/-- The text begins like a value. -/
def Starts (text : List Char) : Prop :=
  ∃ c later, text = c :: later ∧ IsStart c

theorem starts_of_readValue {fuel : Nat} {text : List Char} {result : Value × List Char}
    (success : readValue fuel text = .ok result) : Starts text := by
  cases fuel with
  | zero => cases success
  | succ fuel =>
      rw [readValue.eq_def] at success
      dsimp only at success
      split at success
      next rest => exact ⟨_, rest, rfl, by decide⟩
      next rest => exact ⟨_, rest, rfl, by decide⟩
      next rest => exact ⟨_, rest, rfl, by decide⟩
      next =>
        cases found : readScalar text with
        | error =>
            rw [found] at success
            cases success
        | ok read =>
            obtain ⟨c, later, rfl, initial⟩ := initial_of_readScalar found
            exact ⟨c, later, rfl, .inl initial⟩

/-- A text is read as a value wherever it ends or a mark follows. -/
def ReadsTo (text : String) (value : Value) : Prop :=
  ∀ rest, Ended rest → ∀ fuel, 2 * text.length ≤ fuel →
    readValue fuel (text.toList ++ rest) = .ok (value, rest)

theorem Starts.append {text : List Char} (starts : Starts text) (more : List Char) :
    Starts (text ++ more) := by
  obtain ⟨c, later, rfl, start⟩ := starts
  exact ⟨c, later ++ more, rfl, start⟩

theorem Starts.skipSpace {text : List Char} (starts : Starts text) : skipSpace text = text := by
  obtain ⟨c, later, rfl, start⟩ := starts
  exact skipSpace_start start later

theorem Starts.intercalate {text : String} (starts : Starts text.toList) (mark : String)
    (texts : List String) : Starts (mark.intercalate (text :: texts)).toList := by
  cases texts with
  | nil => rwa [String.intercalate_singleton]
  | cons next texts =>
      rw [String.intercalate_cons_cons, String.toList_append, String.toList_append,
        List.append_assoc]
      exact starts.append _

theorem ReadsTo.starts {text : String} {value : Value} (reads : ReadsTo text value) :
    Starts text.toList := by
  have success := reads [] ended_nil _ (Nat.le_refl _)
  rw [List.append_nil] at success
  exact starts_of_readValue success

/-- The text of a member of a mapping: its name and its value. -/
def ReadsToMember (text : String) (member : Scalar × Value) : Prop :=
  ∃ name inner, member.1 = .text name ∧ text = stringText name ++ ": " ++ inner ∧
    ReadsTo inner member.2

/-! ## Steps of the readers of collections -/

section Steps

variable {fuel : Nat} {text after more rest afterName afterColon : List Char} {value : Value}

theorem readItems_last (item : readValue fuel text = .ok (value, after))
    (ends : skipSpace after = ']' :: rest) :
    readItems (fuel + 1) text = .ok ([value], rest) := by
  simp [readItems, item, ends, bind, Except.bind]

theorem readItems_next (item : readValue fuel text = .ok (value, after))
    (goesOn : skipSpace after = ',' :: more) {values : List Value}
    (others : readItems fuel (skipSpace more) = .ok (values, rest)) :
    readItems (fuel + 1) text = .ok (value :: values, rest) := by
  simp [readItems, item, goesOn, others, bind, Except.bind, pure, Except.pure]

theorem readMembers_last {entries : Entries} {name : Scalar}
    (named : readString text = .ok (name, afterName))
    (colon : skipSpace afterName = ':' :: afterColon)
    (read : readValue fuel (skipSpace afterColon) = .ok (value, after))
    (ends : skipSpace after = '\x7d' :: rest) :
    readMembers (fuel + 1) entries ('"' :: text) =
      .ok (Entries.put entries name value, rest) := by
  simp [readMembers, named, colon, read, ends, bind, Except.bind]

theorem readMembers_next {entries : Entries} {name : Scalar}
    (named : readString text = .ok (name, afterName))
    (colon : skipSpace afterName = ':' :: afterColon)
    (read : readValue fuel (skipSpace afterColon) = .ok (value, after))
    (goesOn : skipSpace after = ',' :: more) :
    readMembers (fuel + 1) entries ('"' :: text) =
      readMembers fuel (Entries.put entries name value) (skipSpace more) := by
  simp [readMembers, named, colon, read, goesOn, bind, Except.bind]

theorem readValue_list {values : List Value} (starts : Starts (skipSpace text))
    (items : readItems fuel (skipSpace text) = .ok (values, rest)) :
    readValue (fuel + 1) ('[' :: text) = .ok (.list values, rest) := by
  obtain ⟨c, later, isText, start⟩ := starts
  have notEnd : c ≠ ']' := start.ne (by decide)
  rw [isText] at items
  simp [readValue, isText, notEnd, items, bind, Except.bind, pure, Except.pure]

theorem readValue_mapping {entries : Entries} (starts : Starts (skipSpace text))
    (members : readMembers fuel [] (skipSpace text) = .ok (entries, rest)) :
    readValue (fuel + 1) ('\x7b' :: text) = .ok (.mapping entries, rest) := by
  obtain ⟨c, later, isText, start⟩ := starts
  have notEnd : c ≠ '\x7d' := start.ne (by decide)
  rw [isText] at members
  simp [readValue, isText, notEnd, members, bind, Except.bind, pure, Except.pure]

end Steps

namespace ReadsToMember

variable {text : String} {member : Scalar × Value} {fuel : Nat} {more rest : List Char}

theorem starts (reads : ReadsToMember text member) : Starts text.toList := by
  obtain ⟨name, inner, _, rfl, _⟩ := reads
  rw [String.toList_append, String.toList_append, toList_stringText]
  exact ⟨'"', _, rfl, by decide⟩

/-- The text of a member is its name in quotes and then its value. -/
theorem split (reads : ReadsToMember text member) (more : List Char) :
    ∃ inner quoted, ReadsTo inner member.2 ∧ inner.length ≤ text.length ∧
      text.toList ++ more = '"' :: quoted ∧
      readString quoted = .ok (member.1, ':' :: ' ' :: (inner.toList ++ more)) := by
  obtain ⟨name, inner, isName, rfl, reads⟩ := reads
  refine ⟨inner, name.toList.flatMap charText ++ '"' :: ':' :: ' ' :: (inner.toList ++ more),
    reads, by simp [String.length_append], ?_, isName ▸ readString_stringText name _⟩
  simp [String.toList_append, toList_stringText]

theorem last (reads : ReadsToMember text member) (ended : Ended more)
    (ends : skipSpace more = '\x7d' :: rest) (entries : Entries)
    (enough : 2 * text.length ≤ fuel) :
    readMembers (fuel + 1) entries (text.toList ++ more) =
      .ok (Entries.put entries member.1 member.2, rest) := by
  obtain ⟨inner, quoted, value, shorter, isText, named⟩ := reads.split more
  rw [isText]
  refine readMembers_last named rfl ?_ ends
  rw [skipSpace_cons rfl, (value.starts.append more).skipSpace]
  exact value more ended fuel (by omega)

theorem next (reads : ReadsToMember text member) (ended : Ended more)
    (goesOn : skipSpace more = ',' :: rest) (entries : Entries)
    (enough : 2 * text.length ≤ fuel) :
    readMembers (fuel + 1) entries (text.toList ++ more) =
      readMembers fuel (Entries.put entries member.1 member.2) (skipSpace rest) := by
  obtain ⟨inner, quoted, value, shorter, isText, named⟩ := reads.split more
  rw [isText]
  refine readMembers_next named rfl ?_ goesOn
  rw [skipSpace_cons rfl, (value.starts.append more).skipSpace]
  exact value more ended fuel (by omega)

end ReadsToMember

/-! ## Collections -/

section Collections

variable {layout : Layout} {depth inside : Nat} {rest : List Char}

/-- Between the first part of a collection and the others there are a comma and what a reader
skips. -/
theorem toList_intercalate_cons (layout : Layout) (inside : Nat) (text next : String)
    (texts : List String) (tail : List Char) :
    ∃ blank, ((separator layout inside).intercalate (text :: next :: texts)).toList ++ tail =
        text.toList ++ ',' ::
          (blank ++ (((separator layout inside).intercalate (next :: texts)).toList ++ tail)) ∧
      (∀ rest, skipSpace (blank ++ rest) = skipSpace rest) ∧
      text.length + 1 + ((separator layout inside).intercalate (next :: texts)).length ≤
        ((separator layout inside).intercalate (text :: next :: texts)).length := by
  obtain ⟨blank, isSeparator, skips⟩ := separator_eq layout inside
  have length := congrArg List.length isSeparator
  rw [String.length_toList, List.length_cons] at length
  refine ⟨blank, ?_, skips, ?_⟩
  · simp [String.intercalate_cons_cons, isSeparator]
  · rw [String.intercalate_cons_cons, String.length_append, String.length_append]
    omega

/-- The items of a list are read up to its end. -/
theorem readItems_intercalate {text : String} {value : Value} {texts : List String}
    {values : List Value} (first : ReadsTo text value) (others : List.Forall₂ ReadsTo texts values)
    {fuel : Nat}
    (enough : 2 * ((separator layout inside).intercalate (text :: texts)).length < fuel) :
    readItems fuel (((separator layout inside).intercalate (text :: texts)).toList ++
        ((lineBreak layout depth).toList ++ ']' :: rest)) =
      .ok (value :: values, rest) := by
  induction others generalizing text value fuel with
  | nil =>
      obtain ⟨fuel, rfl⟩ := Nat.exists_eq_add_one_of_ne_zero (Nat.ne_zero_of_lt enough)
      rw [String.intercalate_singleton] at enough ⊢
      refine readItems_last (first _ (ended_lineBreak layout depth (by decide) rest) fuel
        (by omega)) ?_
      exact skipSpace_lineBreak _ _ _
  | @cons next nextValue texts values second others ih =>
      obtain ⟨fuel, rfl⟩ := Nat.exists_eq_add_one_of_ne_zero (Nat.ne_zero_of_lt enough)
      obtain ⟨blank, parts, skips, shorter⟩ :=
        toList_intercalate_cons layout inside text next texts
          ((lineBreak layout depth).toList ++ ']' :: rest)
      rw [parts]
      refine readItems_next (first _ (ended_cons.2 (by decide)) fuel (by omega)) rfl ?_
      rw [skips, ((second.starts.intercalate _ texts).append _).skipSpace]
      exact ih second (by omega)

/-- The members of a mapping are read up to its end. -/
theorem readMembers_intercalate {text : String} {member : Scalar × Value} {texts : List String}
    {members : Entries} (first : ReadsToMember text member)
    (others : List.Forall₂ ReadsToMember texts members) (entries : Entries) {fuel : Nat}
    (enough : 2 * ((separator layout inside).intercalate (text :: texts)).length < fuel) :
    readMembers fuel entries (((separator layout inside).intercalate (text :: texts)).toList ++
        ((lineBreak layout depth).toList ++ '\x7d' :: rest)) =
      .ok (Entries.putAll entries (member :: members), rest) := by
  induction others generalizing text member entries fuel with
  | nil =>
      obtain ⟨fuel, rfl⟩ := Nat.exists_eq_add_one_of_ne_zero (Nat.ne_zero_of_lt enough)
      rw [String.intercalate_singleton] at enough ⊢
      exact first.last (ended_lineBreak layout depth (by decide) rest)
        (skipSpace_lineBreak layout depth _) entries (by omega)
  | @cons next nextMember texts members second others ih =>
      obtain ⟨fuel, rfl⟩ := Nat.exists_eq_add_one_of_ne_zero (Nat.ne_zero_of_lt enough)
      obtain ⟨blank, parts, skips, shorter⟩ :=
        toList_intercalate_cons layout inside text next texts
          ((lineBreak layout depth).toList ++ '\x7d' :: rest)
      rw [parts, first.next (ended_cons.2 (by decide)) rfl entries (by omega), skips,
        ((second.starts.intercalate _ texts).append _).skipSpace, ih second _ (by omega)]
      rfl

section Enclosed

variable {opening closing : String} {first last : Char}

/-- The text of a collection: its marks, and between them the texts of its parts. -/
theorem toList_enclosed (layout : Layout) (depth : Nat) (opens : opening.toList = [first])
    (closes : closing.toList = [last]) (text : String) (texts : List String) (rest : List Char) :
    (enclosed layout depth opening closing (text :: texts)).toList ++ rest =
      first :: ((lineBreak layout (depth + 1)).toList ++
        (((separator layout (depth + 1)).intercalate (text :: texts)).toList ++
          ((lineBreak layout depth).toList ++ last :: rest))) := by
  simp [enclosed, opens, closes]

theorem length_enclosed (layout : Layout) (depth : Nat) (opens : opening.toList = [first])
    (closes : closing.toList = [last]) (text : String) (texts : List String) :
    ((separator layout (depth + 1)).intercalate (text :: texts)).length + 2 ≤
      (enclosed layout depth opening closing (text :: texts)).length := by
  have whole := congrArg List.length (toList_enclosed layout depth opens closes text texts [])
  simp only [List.length_append, List.length_cons, List.length_nil, String.length_toList] at whole
  omega

theorem toList_enclosed_nil (layout : Layout) (depth : Nat) (opens : opening.toList = [first])
    (closes : closing.toList = [last]) :
    (enclosed layout depth opening closing []).toList = [first, last] := by
  simp [enclosed, opens, closes]

end Enclosed

theorem readsTo_list {texts : List String} {values : List Value}
    (parts : List.Forall₂ ReadsTo texts values) :
    ReadsTo (enclosed layout depth "[" "]" texts) (.list values) := by
  intro rest ended fuel enough
  have opens : "[".toList = ['['] := rfl
  have closes : "]".toList = [']'] := rfl
  cases parts with
  | nil =>
      rw [← String.length_toList, toList_enclosed_nil layout depth opens closes] at enough
      obtain ⟨fuel, rfl⟩ := Nat.exists_eq_add_of_le' (Nat.le_trans (by decide : 1 ≤ 4) enough)
      rw [toList_enclosed_nil layout depth opens closes]
      simp [readValue, skipSpace, isSpace]
  | @cons text value texts values first others =>
      have length := length_enclosed layout depth opens closes text texts
      obtain ⟨fuel, rfl⟩ := Nat.exists_eq_add_of_le' (show 1 ≤ fuel by omega)
      have starts := (first.starts.intercalate (separator layout (depth + 1)) texts).append
        ((lineBreak layout depth).toList ++ ']' :: rest)
      rw [toList_enclosed layout depth opens closes]
      refine readValue_list ?_ ?_
      · rw [skipSpace_lineBreak, starts.skipSpace]
        exact starts
      · rw [skipSpace_lineBreak, starts.skipSpace]
        exact readItems_intercalate first others (by omega)

theorem readsTo_mapping {texts : List String} {members : Entries}
    (parts : List.Forall₂ ReadsToMember texts members) :
    ReadsTo (enclosed layout depth "\x7b" "\x7d" texts)
      (.mapping (Entries.putAll [] members)) := by
  intro rest ended fuel enough
  have opens : "\x7b".toList = ['\x7b'] := rfl
  have closes : "\x7d".toList = ['\x7d'] := rfl
  cases parts with
  | nil =>
      rw [← String.length_toList, toList_enclosed_nil layout depth opens closes] at enough
      obtain ⟨fuel, rfl⟩ := Nat.exists_eq_add_of_le' (Nat.le_trans (by decide : 1 ≤ 4) enough)
      rw [toList_enclosed_nil layout depth opens closes]
      simp [readValue, skipSpace, isSpace, Entries.putAll]
  | @cons text member texts members first others =>
      have length := length_enclosed layout depth opens closes text texts
      obtain ⟨fuel, rfl⟩ := Nat.exists_eq_add_of_le' (show 1 ≤ fuel by omega)
      have starts := (first.starts.intercalate (separator layout (depth + 1)) texts).append
        ((lineBreak layout depth).toList ++ '\x7d' :: rest)
      rw [toList_enclosed layout depth opens closes]
      refine readValue_mapping ?_ ?_
      · rw [skipSpace_lineBreak, starts.skipSpace]
        exact starts
      · rw [skipSpace_lineBreak, starts.skipSpace]
        exact readMembers_intercalate first others [] (by omega)

end Collections

/-! ## Whole values -/

theorem readValue_scalar {fuel : Nat} {text rest : List Char} {scalar : Scalar}
    (read : readScalar text = .ok (scalar, rest)) :
    readValue (fuel + 1) text = .ok (.scalar scalar, rest) := by
  obtain ⟨c, later, rfl, initial⟩ := initial_of_readScalar read
  have quote : c ≠ '"' := ne_of_initial initial (by decide)
  have brace : c ≠ '\x7b' := ne_of_initial initial (by decide)
  have bracket : c ≠ '[' := ne_of_initial initial (by decide)
  rw [readValue, read]
  · rfl
  · exact fun _ same => quote (List.cons.inj same).1
  · exact fun _ same => brace (List.cons.inj same).1
  · exact fun _ same => bracket (List.cons.inj same).1

theorem readsTo_scalarText {scalar : Scalar} {text : String}
    (written : scalarText scalar = .ok text) (whole : scalar.isWhole = true)
    (floats : ∀ negative significand exponent,
      scalar = .float (.finite negative significand exponent) →
        ReadsBack (.finite negative significand exponent)) :
    ReadsTo text (.scalar scalar) := by
  intro rest ended fuel enough
  by_cases isText : ∃ value, scalar = .text value
  · obtain ⟨value, rfl⟩ := isText
    cases written
    rw [← String.length_toList, toList_stringText, List.length_cons] at enough
    obtain ⟨fuel, rfl⟩ := Nat.exists_eq_add_of_le' (show 1 ≤ fuel by omega)
    have read := readString_stringText value rest
    rw [toList_stringText, List.cons_append, List.append_assoc, List.singleton_append, readValue,
      read]
    rfl
  · have noBroken (value : BrokenText) : scalar ≠ .broken value := by
      rintro rfl
      cases whole
    have read := readScalar_scalarText written (fun value same => isText ⟨value, same⟩) noBroken
      floats
    obtain ⟨c, later, isList, _⟩ := initial_of_readScalar read
    rw [← String.length_toList, isList, List.length_cons] at enough
    obtain ⟨fuel, rfl⟩ := Nat.exists_eq_add_of_le' (show 1 ≤ fuel by omega)
    exact readValue_scalar (readScalar_append ended read)

section Writing

variable {layout : Layout} {depth : Nat}

/-- All finite numbers in a value are read back from their printed forms. -/
def FloatsReadBack (value : Value) : Prop :=
  ∀ negative significand exponent,
    DeepPart (.scalar (.float (.finite negative significand exponent))) value →
      ReadsBack (.finite negative significand exponent)

theorem FloatsReadBack.part {inner outer : Value} (floats : FloatsReadBack outer)
    (part : DeepPart inner outer) : FloatsReadBack inner :=
  fun negative significand exponent low => floats negative significand exponent (low.trans part)

@[simp] theorem floatsReadBack_scalar (value : Scalar) :
    FloatsReadBack (.scalar value) ↔ ∀ negative significand exponent,
      value = .float (.finite negative significand exponent) →
        ReadsBack (.finite negative significand exponent) := by
  constructor
  · intro floats negative significand exponent same
    exact floats negative significand exponent (same ▸ .whole _)
  · intro reads negative significand exponent part
    cases part
    exact reads negative significand exponent rfl

@[simp] theorem floatsReadBack_list (items : List Value) :
    FloatsReadBack (.list items) ↔ ∀ item ∈ items, FloatsReadBack item := by
  constructor
  · exact fun floats item member => floats.part (.item member (.whole _))
  · intro each negative significand exponent part
    cases part with
    | item member inside => exact each _ member negative significand exponent inside

@[simp] theorem floatsReadBack_mapping (entries : Entries) :
    FloatsReadBack (.mapping entries) ↔ ∀ entry ∈ entries, FloatsReadBack entry.2 := by
  constructor
  · exact fun floats entry member => floats.part (.entry member (.whole _))
  · intro each negative significand exponent part
    cases part with
    | entry member inside => exact each _ member negative significand exponent inside

/-- The texts of the items of a list are read as what is kept of the items. -/
theorem reads_items {items : List Value} {texts : List String}
    (written : writeItems layout depth items = .ok texts)
    (each : ∀ item ∈ items, ∀ text, writeAt layout depth item = .ok text →
      ReadsTo text (decoded item)) :
    List.Forall₂ ReadsTo texts (decodedItems items) := by
  rw [decodedItems_eq, List.forall₂_map_right_iff]
  exact .flip (forall₂_imp_of_mem (writeItems_eq_ok.1 written) each)

theorem reads_entries {entries : Entries} {texts : List String}
    (written : writeEntries layout depth entries = .ok texts)
    (whole : ∀ entry ∈ entries, entry.1.isWhole = true)
    (each : ∀ entry ∈ entries, ∀ text, writeAt layout depth entry.2 = .ok text →
      ReadsTo text (decoded entry.2)) :
    List.Forall₂ ReadsToMember texts (decodedEntries entries) := by
  rw [decodedEntries_eq, List.forall₂_map_right_iff]
  refine .flip (forall₂_imp_of_mem (writeEntries_eq_ok.1 written) ?_)
  rintro entry member _ ⟨_, inner, named, written, rfl⟩
  obtain ⟨name, isName, rfl⟩ := keyText_eq_ok named (whole entry member)
  exact ⟨name, inner, isName, rfl, each entry member inner written⟩

/-- What was written is read as what is kept of the value. -/
theorem readsTo_writeAt {value : Value} {text : String}
    (written : writeAt layout depth value = .ok text) (whole : value.isWhole = true)
    (floats : FloatsReadBack value) : ReadsTo text (decoded value) := by
  induction value using inductionOnParts generalizing depth text with
  | scalar value =>
      exact readsTo_scalarText written (by simpa using whole)
        (floatsReadBack_scalar value |>.1 floats)
  | set => cases written
  | list items ih =>
      rw [writeAt, except_bind_eq_ok] at written
      obtain ⟨texts, inner, written⟩ := written
      cases written
      rw [decoded]
      refine readsTo_list (reads_items inner ?_)
      exact fun item member text written =>
        ih item member written (isWhole_list.1 whole item member)
          (floatsReadBack_list items |>.1 floats item member)
  | tuple items ih =>
      rw [writeAt, except_bind_eq_ok] at written
      obtain ⟨texts, inner, written⟩ := written
      cases written
      rw [decoded]
      refine readsTo_list (reads_items inner ?_)
      exact fun item member text written => ih item member written
        (isWhole_tuple.1 whole item member) (floats.part (.component member (.whole _)))
  | mapping entries ih =>
      rw [writeAt, except_bind_eq_ok] at written
      obtain ⟨texts, inner, written⟩ := written
      cases written
      have parts := isWhole_mapping.1 whole
      rw [decoded]
      refine readsTo_mapping (reads_entries inner (fun entry member => (parts entry member).1) ?_)
      exact fun entry member text written => ih entry member written (parts entry member).2
        (floatsReadBack_mapping entries |>.1 floats entry member)

/-- The text of a value is read as what is kept of the value. -/
theorem read_write {value : Value} {text : String} (written : write layout value = .ok text)
    (floats : FloatsReadBack value) : read text = .ok (decoded value) := by
  obtain ⟨written, whole⟩ := write_eq_ok_iff.1 written
  have reads := readsTo_writeAt written whole floats
  obtain ⟨c, later, isText, start⟩ := reads.starts
  have success := reads [] ended_nil (2 * text.toList.length + 2)
    (by rw [String.length_toList]; omega)
  have mark : c ≠ '\uFEFF' := start.ne (by decide)
  rw [List.append_nil] at success
  rw [read, readText]
  · rw [reads.starts.skipSpace, success]
    rfl
  · rw [isText]
    exact fun later same => mark (List.cons.inj same).1

end Writing

end RouteTypes.Json
