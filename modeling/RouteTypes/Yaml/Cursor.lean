import RouteTypes.Yaml.Fault

/-!
# Positions in a YAML text

A cursor stands in front of a character of a text and knows the index, the line and the column
of that place. Beyond the end of the text it sees the character zero, which no text may hold.
-/

namespace RouteTypes.Yaml

/-- A place in a text. -/
structure Cursor where
  rest : List Char
  index : Nat
  line : Nat
  column : Nat

/-- A character that ends a line. -/
def isBreak (c : Char) : Bool :=
  c == '\n' || c == '\r' || c == '\u0085' || c == '\u2028' || c == '\u2029'

/-- The end of the text. -/
def isEnd (c : Char) : Bool :=
  c == '\x00'

/-- A line end or the end of the text. -/
def isBreakOrEnd (c : Char) : Bool :=
  isBreak c || isEnd c

/-- A space, a line end or the end of the text. -/
def isSpaceOrEnd (c : Char) : Bool :=
  c == ' ' || isBreakOrEnd c

/-- White space, a line end or the end of the text. -/
def isBlankOrEnd (c : Char) : Bool :=
  c == '\t' || isSpaceOrEnd c

/-- A character of the name of an anchor, a directive or a tag handle. -/
def isNameChar (c : Char) : Bool :=
  c.isAlphanum || c == '-' || c == '_'

/-- A character that a document may hold. -/
def isAllowed (c : Char) : Bool :=
  let code := c.toNat
  code == 0x09 || code == 0x0A || code == 0x0D || (0x20 ≤ code && code ≤ 0x7E) ||
    code == 0x85 || (0xA0 ≤ code && code ≤ 0xD7FF) || (0xE000 ≤ code && code ≤ 0xFFFD) ||
    0x10000 ≤ code

namespace Cursor

/-- The start of a text. -/
def start (text : List Char) : Cursor := ⟨text, 0, 0, 0⟩

/-- The character that many places ahead. -/
def ahead (cursor : Cursor) (places : Nat) : Char :=
  (cursor.rest.drop places).headD '\x00'

/-- The character at the place. -/
def here (cursor : Cursor) : Char :=
  cursor.rest.headD '\x00'

/-- Moves over one character. A line end of two characters ends the line with its second one,
and a byte order mark takes no column. -/
def next (cursor : Cursor) : Cursor :=
  match cursor.rest with
  | [] => cursor
  | c :: rest =>
    let ends := isBreak c && !(c == '\r' && rest.head? == some '\n')
    if ends then ⟨rest, cursor.index + 1, cursor.line + 1, 0⟩
    else if c == '\uFEFF' then ⟨rest, cursor.index + 1, cursor.line, cursor.column⟩
    else ⟨rest, cursor.index + 1, cursor.line, cursor.column + 1⟩

/-- Moves over a number of characters. -/
def advance : Nat → Cursor → Cursor
  | 0, cursor => cursor
  | count + 1, cursor => advance count cursor.next

/-- The characters at the place that satisfy a test, and the place behind them. -/
def span (test : Char → Bool) (cursor : Cursor) : List Char × Cursor :=
  let taken := cursor.rest.takeWhile test
  (taken, cursor.advance taken.length)

/-- Moves over the characters that satisfy a test. -/
def skip (test : Char → Bool) (cursor : Cursor) : Cursor :=
  (cursor.span test).2

/-- Moves over the spaces. -/
def skipSpaces (cursor : Cursor) : Cursor :=
  cursor.skip (· == ' ')

/-- Moves over a comment. -/
def skipComment (cursor : Cursor) : Cursor :=
  if cursor.here == '#' then cursor.skip (!isBreak ·) else cursor

/-- The line end at the place, in the form in which it becomes part of a scalar, and the place
behind it. -/
def lineEnd (cursor : Cursor) : List Char × Cursor :=
  match cursor.rest with
  | '\r' :: '\n' :: _ => (['\n'], cursor.advance 2)
  | c :: _ =>
    if c == '\u2028' || c == '\u2029' then ([c], cursor.next)
    else if isBreak c then (['\n'], cursor.next)
    else ([], cursor)
  | [] => ([], cursor)

/-- The place stands at three equal characters that mark the start or end of a document. -/
def isMarker (cursor : Cursor) (mark : Char) : Bool :=
  cursor.here == mark && cursor.ahead 1 == mark && cursor.ahead 2 == mark &&
    isBlankOrEnd (cursor.ahead 3)

/-- The place stands at the mark of the start or end of a document. -/
def isSeparator (cursor : Cursor) : Bool :=
  cursor.isMarker '-' || cursor.isMarker '.'

end Cursor

end RouteTypes.Yaml
