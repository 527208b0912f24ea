import RouteTypes.Text.CommandWords

/-!
# Lines that are no command

A line is read as a command character by character, and where the next character stands depends on
the one before (`CommandPlace.after`). What goes into the words does not matter for that, so a line
fails to be a command exactly if it ends inside of quotes or behind a backslash
(`commandWords_eq_error_iff`).
-/

namespace RouteTypes.Text

variable {place : CommandPlace} {c : Char} {text rest : List Char} {fault : CommandFault}

namespace CommandPlace

/-- Where a character stands behind a space, a backslash, a quote or any other character outside of
quotes. -/
def afterPlain (c : Char) : CommandPlace :=
  if isCommandSpace c then .between
  else if c == '\\' then .escaped
  else if c == '\'' || c == '"' then .quoted c
  else .word

/-- Where the character behind another one stands. -/
def after : CommandPlace → Char → CommandPlace
  | .between, c => afterPlain c
  | .word, c => afterPlain c
  | .quoted mark, c =>
    if c == mark then .word
    else if c == '\\' && mark == '"' then .quotedEscaped
    else .quoted mark
  | .escaped, _ => .word
  | .quotedEscaped, _ => .quoted '"'

/-- What is left open at a place where the line ends. -/
def open? : CommandPlace → Option CommandFault
  | .between => none
  | .word => none
  | .quoted _ => some .openQuote
  | .escaped => some .openEscape
  | .quotedEscaped => some .openEscape

end CommandPlace

/-- A character changes the words behind it and leads to the next place. -/
theorem commandWordsFrom_cons (place : CommandPlace) (c : Char) (rest : List Char) :
    ∃ change : List (List Char) → List (List Char),
      commandWordsFrom place (c :: rest) = change <$> commandWordsFrom (place.after c) rest := by
  have unchanged (step : Except CommandFault (List (List Char))) : step = id <$> step := by
    cases step <;> rfl
  cases place with
  | between =>
      rw [commandWordsFrom, CommandPlace.after, CommandPlace.afterPlain]
      split
      next => exact ⟨id, unchanged _⟩
      next =>
        split
        next => exact ⟨id, unchanged _⟩
        next =>
          split
          next => exact ⟨id, unchanged _⟩
          next => exact ⟨extendFirst c, rfl⟩
  | word =>
      rw [commandWordsFrom, CommandPlace.after, CommandPlace.afterPlain]
      split
      next => exact ⟨([] :: ·), rfl⟩
      next =>
        split
        next => exact ⟨id, unchanged _⟩
        next =>
          split
          next => exact ⟨id, unchanged _⟩
          next => exact ⟨extendFirst c, rfl⟩
  | quoted mark =>
      rw [commandWordsFrom, CommandPlace.after]
      split
      next => exact ⟨id, unchanged _⟩
      next =>
        split
        next => exact ⟨id, unchanged _⟩
        next => exact ⟨extendFirst c, rfl⟩
  | escaped => exact ⟨extendFirst c, rfl⟩
  | quotedEscaped =>
      refine ⟨fun words => if c == '\\' || c == '"' then extendFirst c words
        else extendFirst '\\' (extendFirst c words), ?_⟩
      rw [commandWordsFrom, CommandPlace.after]
      cases commandWordsFrom (.quoted '"') rest with
      | error fault => rfl
      | ok words => rfl

/-- Reading fails exactly with what is left open at the end. -/
theorem commandWordsFrom_eq_error_iff : commandWordsFrom place text = .error fault ↔
    (text.foldl CommandPlace.after place).open? = some fault := by
  induction text generalizing place with
  | nil => cases place <;> simp [commandWordsFrom, CommandPlace.open?]
  | cons c rest ih =>
      obtain ⟨change, same⟩ := commandWordsFrom_cons place c rest
      rw [same, List.foldl_cons, ← ih]
      cases commandWordsFrom (place.after c) rest with
      | error other => simp [Functor.map, Except.map]
      | ok words => simp [Functor.map, Except.map]

/-- A line that ends inside of quotes or behind a backslash. -/
def Unfinished (line : String) : Prop :=
  ∃ fault, (line.toList.foldl CommandPlace.after .between).open? = some fault

/-- A line is no command exactly if it is unfinished. -/
theorem unfinished_iff {line : String} :
    Unfinished line ↔ ∃ fault, commandWords line = .error fault := by
  have mapped (step : Except CommandFault (List (List Char))) (fault : CommandFault) :
      (step >>= fun words => Except.ok (words.map String.ofList)) = .error fault ↔
        step = .error fault := by
    cases step <;> simp [bind, Except.bind]
  unfold Unfinished commandWords
  exact exists_congr fun fault => (commandWordsFrom_eq_error_iff.symm.trans (mapped _ _).symm)

example : Unfinished "json2ts 'a\\" := ⟨.openQuote, rfl⟩

end RouteTypes.Text
