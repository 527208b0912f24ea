/-!
# Splitting text

A text is split at every occurrence of a character, or cut at the first one. Splitting never
loses text: joining the parts gives the text again.
-/

namespace RouteTypes.Text

/-- The parts of a text between the occurrences of a character; at least one. -/
def splitOn (mark : Char) : List Char → List (List Char)
  | [] => [[]]
  | c :: rest =>
    if c == mark then [] :: splitOn mark rest
    else match splitOn mark rest with
      | [] => [[c]]
      | part :: parts => (c :: part) :: parts

/-- The parts one after the other with a character between them. -/
def joinWith (mark : Char) : List (List Char) → List Char
  | [] => []
  | [part] => part
  | part :: parts => part ++ mark :: joinWith mark parts

/-- What stands before the first occurrence of a character and what stands after it. -/
def cut (mark : Char) (text : List Char) : List Char × Option (List Char) :=
  match text.dropWhile (· != mark) with
  | [] => (text, none)
  | _ :: rest => (text.takeWhile (· != mark), some rest)

/-- The parts of a string between the occurrences of a character. -/
def splitString (mark : Char) (text : String) : List String :=
  (splitOn mark text.toList).map String.ofList

/-- The text starts with the given one. -/
def startsWith (start text : String) : Bool :=
  start.toList.isPrefixOf text.toList

/-- The characters of a text hold the given ones, one after the other. -/
def holdsChars (part : List Char) : List Char → Bool
  | [] => part.isEmpty
  | c :: rest => part.isPrefixOf (c :: rest) || holdsChars part rest

/-- The text holds the given one. -/
def holds (part text : String) : Bool :=
  holdsChars part.toList text.toList

/-- The text starts with the given one, letter case of ASCII aside. -/
def startsWithAnyCase (start text : String) : Bool :=
  start.toList.isPrefixOf (text.toList.map Char.toLower)

theorem splitOn_ne_nil (mark : Char) (text : List Char) : splitOn mark text ≠ [] := by
  cases text with
  | nil => simp [splitOn]
  | cons c rest =>
    rw [splitOn]
    split
    · simp
    · split <;> simp

@[simp] theorem joinWith_cons (mark : Char) (part : List Char) {parts : List (List Char)}
    (some : parts ≠ []) :
    joinWith mark (part :: parts) = part ++ mark :: joinWith mark parts := by
  cases parts with
  | nil => exact absurd rfl some
  | cons next rest => rfl

/-- Joining the parts of a text gives the text again. -/
@[simp] theorem joinWith_splitOn (mark : Char) (text : List Char) :
    joinWith mark (splitOn mark text) = text := by
  induction text with
  | nil => rfl
  | cons c rest ih =>
    rw [splitOn]
    split
    next equal =>
      rw [joinWith_cons mark [] (splitOn_ne_nil mark rest), ih]
      simp [eq_of_beq equal]
    next different =>
      split
      next none => exact absurd none (splitOn_ne_nil mark rest)
      next part parts found =>
        rw [found] at ih
        cases parts with
        | nil => simpa [joinWith] using ih
        | cons next others =>
          rw [joinWith_cons mark (c :: part) (by simp)]
          rw [joinWith_cons mark part (by simp)] at ih
          simp [ih]

end RouteTypes.Text
