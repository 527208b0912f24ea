import RouteTypes.Text.Range

/-!
# Blank characters

The characters that count as white space: those whose bidirectional class or category is one
of separation. They are dropped at both ends of numbers and of whole documents when these are
tested for emptiness.
-/

namespace RouteTypes.Text

/-- The code points of the blank characters. -/
def blankRanges : List (Nat × Nat) :=
  [
    (9, 13), (28, 32), (133, 133), (160, 160), (5760, 5760), (8192, 8202),
    (8232, 8233), (8239, 8239), (8287, 8287), (12288, 12288)]

/-- A character that counts as white space. -/
def isBlank (c : Char) : Bool :=
  inRanges blankRanges c.toNat

/-- Drops the blank characters at the front. -/
def trimStart (text : List Char) : List Char :=
  text.dropWhile isBlank

/-- Drops the blank characters at the end. -/
def trimEnd (text : List Char) : List Char :=
  (text.reverse.dropWhile isBlank).reverse

/-- Drops the blank characters at both ends. -/
def trim (text : List Char) : List Char :=
  trimEnd (trimStart text)

/-- A text without any character but blank ones. -/
def isAllBlank (text : List Char) : Bool :=
  text.all isBlank

end RouteTypes.Text
