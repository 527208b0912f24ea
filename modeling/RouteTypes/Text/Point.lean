import RouteTypes.Text.Quoted

/-!
# Points of texts

A document may name the parts of a text by their numbers. Characters beyond the first plane have a
pair of numbers there, and where one half of a pair stands alone, it stands for no character. A text
with such a half can be kept and shown, but UTF-8 has no form for it.
-/

namespace RouteTypes

/-- A part of a text: a character, or a half of a pair that stands alone, by its distance from the
first half that there is. -/
inductive Point where
  | char (value : Char)
  | half (offset : Fin 2048)
  deriving DecidableEq, Repr

namespace Point

/-- The number of the first half. -/
def firstHalf : Nat := 0xD800

/-- The part of a text with a number. -/
def ofCode (code : Nat) : Point :=
  if isHalf : firstHalf ≤ code ∧ code < firstHalf + 2048 then .half ⟨code - firstHalf, by omega⟩
  else .char (Char.ofNat code)

/-- The part of a text is a half of a pair. -/
def isHalf : Point → Bool
  | .char _ => false
  | .half _ => true

/-- The character in place of a part: halves are replaced. -/
def toChar : Point → Char
  | .char value => value
  | .half _ => Utf8.replacement

/-- A half as it is spelled. -/
def halfText (offset : Fin 2048) : String :=
  "\\u" ++ Text.hexText 4 (firstHalf + offset)

@[simp] theorem isHalf_char (c : Char) : (char c).isHalf = false := rfl

@[simp] theorem isHalf_half (offset : Fin 2048) : (half offset).isHalf = true := rfl

@[simp] theorem toChar_char (c : Char) : (char c).toChar = c := rfl

theorem map_toChar_char (text : List Char) : (text.map char).map toChar = text := by
  simp [Function.comp_def]

/-- A part as it is spelled. -/
def text : Point → String
  | .char value => value.toString
  | .half offset => halfText offset

/-- A part between quotes of the given kind. -/
def quoted (quote : Char) : Point → String
  | .char value => Text.quotedChar quote value
  | .half offset => halfText offset

end Point

/-- A text with a half of a pair in it. -/
structure BrokenText where
  points : List Point
  broken : points.any Point.isHalf = true
  deriving DecidableEq, Repr

namespace BrokenText

/-- A text as it is spelled. -/
def text (broken : BrokenText) : String :=
  String.join (broken.points.map Point.text)

/-- A text between quotes. -/
def quoted (broken : BrokenText) : String :=
  let quote := Text.quoteFor (broken.points.map Point.toChar)
  quote.toString ++ String.join (broken.points.map (Point.quoted quote)) ++ quote.toString

/-- The text with its halves replaced. -/
def repaired (broken : BrokenText) : String :=
  String.ofList (broken.points.map Point.toChar)

end BrokenText

namespace Utf8

/-- The first halves of pairs in a text, as many as stand next to each other: what stands in front
of them is `position` parts long. -/
structure HalfFault where
  position : Nat
  first : Fin 2048
  more : Nat
  deriving DecidableEq, Repr

/-- A single half is shown, several halves by their positions. -/
def HalfFault.message (fault : HalfFault) : String :=
  if fault.more = 0 then
    s!"'utf-8' codec can't encode character '{Point.halfText fault.first}' in position " ++
      s!"{fault.position}: surrogates not allowed"
  else
    s!"'utf-8' codec can't encode characters in position {fault.position}-" ++
      s!"{fault.position + fault.more}: surrogates not allowed"

end Utf8

end RouteTypes
