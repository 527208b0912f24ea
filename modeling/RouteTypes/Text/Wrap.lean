import RouteTypes.Text.Blank
import RouteTypes.Text.Split
import RouteTypes.Text.Width

/-!
# Wrapping

A text is laid out in lines of limited width. Lines are broken between words; a word that is
wider than a line is cut. The blanks behind a word stay with it, beyond the width they are
dropped. Control characters are not shown, and tabs become spaces.
-/

namespace RouteTypes.Text

/-- A control character that would ring, move back or feed. -/
def isUnshown (c : Char) : Bool :=
  let code := c.toNat
  code == 7 || code == 8 || code == 11 || code == 12 || code == 13

/-- The distance of tab stops. -/
def tabWidth : Nat := 8

/-- Replaces tabs by one space or more up to the next stop, from a column on. -/
def expandTabs (column : Nat) : List Char → List Char
  | [] => []
  | '\t' :: rest =>
    let next := (column / tabWidth + 1) * tabWidth
    List.replicate (next - column) ' ' ++ expandTabs next rest
  | c :: rest => c :: expandTabs (column + charWidth c) rest

/-- A part of the way through a word: the blanks before it, its letters, the blanks behind it. -/
inductive WordPart where
  | before
  | inside
  | behind
  deriving DecidableEq, Repr

/-- The words of a line with the blanks behind them; the first one also has those before it. A
line of blanks has no words. The current word is held in reverse. -/
def wordsFrom (part : WordPart) (word : List Char) : List Char → List (List Char)
  | [] => if part = .before then [] else [word.reverse]
  | c :: rest =>
    if isBlank c then
      wordsFrom (if part = .before then .before else .behind) (c :: word) rest
    else if part = .behind then word.reverse :: wordsFrom .inside [c] rest
    else wordsFrom .inside (c :: word) rest

/-- The words of a line. -/
def words (line : List Char) : List (List Char) :=
  wordsFrom .before [] line

/-- Cuts a word into pieces of limited width. The current piece is held in reverse. -/
def cutWord (limit : Nat) (piece : List Char) (column : Nat) : List Char → List (List Char)
  | [] => [piece.reverse]
  | c :: rest =>
    if limit < column + charWidth c then
      piece.reverse :: cutWord limit [c] (charWidth c) rest
    else cutWord limit (c :: piece) (column + charWidth c) rest

/-- Several lines before a current one; an empty current line is not kept. -/
def closeLine (line : List Char) (lines : List (List Char)) : List (List Char) :=
  if line.isEmpty then lines else line :: lines

/-- The lines of words that follow a current line. -/
def fillLines (limit : Nat) (line : List Char) : List (List Char) → List (List Char)
  | [] => [line]
  | word :: rest =>
    let size := width (trimEnd word)
    if width line + size ≤ limit then fillLines limit (line ++ word) rest
    else if limit < size then
      let pieces := cutWord limit [] 0 word
      closeLine line (pieces.dropLast ++ fillLines limit (pieces.getLastD []) rest)
    else closeLine line (fillLines limit word rest)

/-- A line of a width that is not exceeded by letters; blanks beyond it are dropped. -/
def dropExcess (limit : Nat) (line : List Char) : List Char :=
  let excess := line.length - limit
  let blanks := (line.reverse.takeWhile isBlank).length
  line.take (line.length - min blanks excess)

/-- The first characters of a line that fit. -/
def crop (limit : Nat) : List Char → List Char
  | [] => []
  | c :: rest =>
    if charWidth c ≤ limit then c :: crop (limit - charWidth c) rest
    else List.replicate limit ' '

/-- The lines of one line of a text. A line of blanks stays one line. -/
def wrapLine (limit : Nat) (line : List Char) : List (List Char) :=
  let line := expandTabs 0 line
  let lines := match words line with
    | [] => [line]
    | words => fillLines limit [] words
  lines.map fun line => crop limit (dropExcess limit line)

/-- The lines of a text. -/
def wrap (limit : Nat) (text : List Char) : List (List Char) :=
  (splitOn '\n' (text.filter fun c => !isUnshown c)).flatMap (wrapLine limit)

end RouteTypes.Text
