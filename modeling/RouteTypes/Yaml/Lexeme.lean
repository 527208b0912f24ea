import RouteTypes.Yaml.Cursor
import RouteTypes.Text.Percent

/-!
# Lexemes of YAML

The readers of the parts of a YAML text that are made of more than one character: directives,
anchors, tags, and scalars in their four styles. Each starts at a cursor and gives what it has
read together with the cursor behind it.
-/

namespace RouteTypes.Yaml

/-- A tag as it is written: a handle that a directive explains, and the rest. -/
structure RawTag where
  handle : Option (List Char)
  rest : List Char
  deriving DecidableEq, Repr

/-- A directive: the version of the language, a tag handle, or one that is not known. -/
inductive Directive where
  | version (major : Nat)
  | tag (handle start : List Char)
  | unknown
  deriving DecidableEq, Repr

namespace Lexeme

/-- Reads a name, at least one character long. -/
def name (cursor : Cursor) : Except Fault (List Char × Cursor) :=
  match cursor.span isNameChar with
  | ([], _) => .error .malformed
  | found => .ok found

/-- Requires that the character at the place satisfies a test. -/
def require (test : Char → Bool) (cursor : Cursor) : Except Fault Unit :=
  if test cursor.here then .ok () else .error .malformed

/-- Reads the name of an anchor, behind its mark. -/
def anchor (cursor : Cursor) : Except Fault (List Char × Cursor) := do
  let (name, cursor) ← name cursor
  require (fun c => isBlankOrEnd c || "?:,]\x7d%@`".toList.contains c) cursor
  return (name, cursor)

/-- A character that may stand in a tag. -/
def isTagChar (c : Char) : Bool :=
  c.isAlphanum || "-;/?:@&=+$,_.!~*'()[]%".toList.contains c

/-- Reads percent-encoded bytes up to the first character that is none. -/
def percentBytes : Nat → Cursor → Except Fault (Bytes × Cursor)
  | 0, cursor => .ok ([], cursor)
  | fuel + 1, cursor =>
    if cursor.here == '%' then
      match Text.hexPair? (cursor.ahead 1) (cursor.ahead 2) with
      | some byte => do
        let (bytes, cursor) ← percentBytes fuel (cursor.advance 3)
        return (byte :: bytes, cursor)
      | none => .error .malformed
    else .ok ([], cursor)

/-- Reads the characters of a tag and decodes them. -/
def tagChars : Nat → Cursor → Except Fault (List Char × Cursor)
  | 0, cursor => .ok ([], cursor)
  | fuel + 1, cursor =>
    if cursor.here == '%' then do
      let (bytes, cursor) ← percentBytes cursor.rest.length cursor
      match Utf8.decode bytes with
      | .error _ => .error .malformed
      | .ok chars => do
        let (more, cursor) ← tagChars fuel cursor
        return (chars ++ more, cursor)
    else if isTagChar cursor.here then do
      let (more, after) ← tagChars fuel cursor.next
      return (cursor.here :: more, after)
    else .ok ([], cursor)

/-- Reads a part of a tag, at least one character long. -/
def tagPart (cursor : Cursor) : Except Fault (List Char × Cursor) :=
  if isTagChar cursor.here then tagChars cursor.rest.length cursor else .error .malformed

/-- Reads the handle of a tag with the marks around it. -/
def tagHandle (cursor : Cursor) : Except Fault (List Char × Cursor) :=
  if cursor.here == '!' then
    let (name, after) := cursor.next.span isNameChar
    if after.here == '!' then .ok ('!' :: name ++ ['!'], after.next)
    else if name.isEmpty && after.here == ' ' then .ok (['!'], after)
    else .error .malformed
  else .error .malformed

/-- The tag has a second mark before it ends. -/
def hasHandle (cursor : Cursor) : Bool :=
  ((cursor.rest.drop 1).dropWhile fun c => c != '!' && !isSpaceOrEnd c).head? == some '!'

/-- Reads a tag. -/
def tag (cursor : Cursor) : Except Fault (RawTag × Cursor) := do
  let (tag, cursor) ←
    if cursor.ahead 1 == '<' then do
      let (rest, cursor) ← tagPart (cursor.advance 2)
      require (· == '>') cursor
      pure (RawTag.mk none rest, cursor.next)
    else if isBlankOrEnd (cursor.ahead 1) then pure (RawTag.mk none ['!'], cursor.next)
    else if hasHandle cursor then do
      let (handle, cursor) ← tagHandle cursor
      let (rest, cursor) ← tagPart cursor
      pure (RawTag.mk (some handle) rest, cursor)
    else do
      let (rest, cursor) ← tagPart cursor.next
      pure (RawTag.mk (some ['!']) rest, cursor)
  require isSpaceOrEnd cursor
  return (tag, cursor)

/-- Reads a decimal number. -/
def decimal (cursor : Cursor) : Except Fault (Nat × Cursor) :=
  match cursor.span Char.isDigit with
  | ([], _) => .error .malformed
  | (digits, cursor) =>
    if Number.maxDigits < digits.length then .error (.number (.tooLong digits.length))
    else .ok (Nat.ofDigitChars 10 digits 0, cursor)

/-- Reads the rest of a line that holds nothing but a comment. -/
def restOfLine (cursor : Cursor) : Except Fault Cursor := do
  let cursor := cursor.skipSpaces.skipComment
  require isBreakOrEnd cursor
  return cursor.lineEnd.2

/-- Reads the arguments of a directive with the given name. -/
def directiveValue (name : List Char) (cursor : Cursor) : Except Fault (Directive × Cursor) :=
  if name == "YAML".toList then do
    let (major, cursor) ← decimal cursor.skipSpaces
    require (· == '.') cursor
    let (_, cursor) ← decimal cursor.next
    require isSpaceOrEnd cursor
    return (.version major, cursor)
  else if name == "TAG".toList then do
    let (handle, cursor) ← tagHandle cursor.skipSpaces
    require (· == ' ') cursor
    let (start, cursor) ← tagPart cursor.skipSpaces
    require isSpaceOrEnd cursor
    return (.tag handle start, cursor)
  else .ok (.unknown, cursor.skip (!isBreak ·))

/-- Reads a directive, behind its mark, to the end of its line. -/
def directive (cursor : Cursor) : Except Fault (Directive × Cursor) := do
  let (name, cursor) ← name cursor
  require isSpaceOrEnd cursor
  let (directive, cursor) ← directiveValue name cursor
  return (directive, ← restOfLine cursor)

/-- What is done with the line ends behind a block scalar: dropped, the first one kept, or all
kept. -/
inductive Chomping where
  | strip
  | clip
  | keep
  deriving DecidableEq, Repr

/-- Reads the mark for the line ends behind a block scalar. -/
def chomping? (cursor : Cursor) : Option Chomping × Cursor :=
  if cursor.here == '+' then (some .keep, cursor.next)
  else if cursor.here == '-' then (some .strip, cursor.next)
  else (none, cursor)

/-- Reads the digit for the indentation of a block scalar. -/
def increment? (cursor : Cursor) : Except Fault (Option Nat × Cursor) :=
  let c := cursor.here
  if c == '0' then .error .malformed
  else if c.isDigit then .ok (some (c.toNat - 48), cursor.next)
  else .ok (none, cursor)

/-- Reads the two marks of a block scalar, which stand in any order. -/
def blockHeader (cursor : Cursor) : Except Fault (Chomping × Option Nat × Cursor) := do
  let (chomping, cursor) := chomping? cursor
  let (increment, cursor) ← increment? cursor
  let (late, cursor) :=
    if chomping.isNone && increment.isSome then chomping? cursor else (none, cursor)
  require isSpaceOrEnd cursor
  let cursor ← restOfLine cursor
  return ((chomping.orElse fun _ => late).getD .clip, increment, cursor)

/-- Moves over spaces up to a column. -/
def skipIndent (indent : Nat) : Nat → Cursor → Cursor
  | 0, cursor => cursor
  | fuel + 1, cursor =>
    if cursor.column < indent && cursor.here == ' ' then skipIndent indent fuel cursor.next
    else cursor

/-- Reads the empty lines of a block scalar whose indentation is known. -/
def emptyLines (indent : Nat) : Nat → Cursor → List (List Char) × Cursor
  | 0, cursor => ([], cursor)
  | fuel + 1, cursor =>
    let cursor := skipIndent indent cursor.rest.length cursor
    if isBreak cursor.here then
      let (line, cursor) := cursor.lineEnd
      let (more, cursor) := emptyLines indent fuel cursor
      (line :: more, cursor)
    else ([], cursor)

/-- Reads the empty lines at the start of a block scalar and finds its indentation, which is
the largest column that their spaces reach. -/
def leadingLines (widest : Nat) : Nat → Cursor → List (List Char) × Nat × Cursor
  | 0, cursor => ([], widest, cursor)
  | fuel + 1, cursor =>
    if cursor.here == ' ' then
      let cursor := cursor.next
      leadingLines (max widest cursor.column) fuel cursor
    else if isBreak cursor.here then
      let (line, cursor) := cursor.lineEnd
      let (more, widest, cursor) := leadingLines widest fuel cursor
      (line :: more, widest, cursor)
    else ([], widest, cursor)

/-- Reads the lines of a block scalar, given the line ends in front of the next one. -/
def blockLines (folded : Bool) (chomping : Chomping) (indent : Nat) :
    Nat → List (List Char) → Cursor → List Char × Cursor
  | 0, _, cursor => ([], cursor)
  | fuel + 1, breaks, cursor =>
    let leads := cursor.here != ' ' && cursor.here != '\t'
    let (line, cursor) := cursor.span (!isBreak ·)
    let (lineEnd, cursor) := cursor.lineEnd
    let (after, cursor) := emptyLines indent (cursor.rest.length + 1) cursor
    let text := breaks.flatten ++ line
    if cursor.column == indent && !isEnd cursor.here then
      let folds := folded && lineEnd == ['\n'] && leads && cursor.here != ' ' &&
        cursor.here != '\t'
      let joint := if !folds then lineEnd else if after.isEmpty then [' '] else []
      let (more, cursor) := blockLines folded chomping indent fuel after cursor
      (text ++ joint ++ more, cursor)
    else
      let ending := match chomping with
        | .strip => []
        | .clip => lineEnd
        | .keep => lineEnd ++ after.flatten
      (text ++ ending, cursor)

/-- Reads a block scalar, behind its mark, inside of a block that is indented to a column, or
of none. -/
def block (folded : Bool) (outer : Int) (cursor : Cursor) :
    Except Fault (List Char × Cursor) := do
  let (chomping, increment, cursor) ← blockHeader cursor
  let least := (max (outer + 1) 1).toNat
  let (breaks, indent, cursor) :=
    match increment with
    | some increment =>
      let indent := least + increment - 1
      let (breaks, cursor) := emptyLines indent (cursor.rest.length + 1) cursor
      (breaks, indent, cursor)
    | none =>
      let (breaks, widest, cursor) := leadingLines 0 (cursor.rest.length + 1) cursor
      (breaks, max least widest, cursor)
  if cursor.column == indent && !isEnd cursor.here then
    return blockLines folded chomping indent (cursor.rest.length + 1) breaks cursor
  else
    return (if chomping == .keep then breaks.flatten else [], cursor)

/-- The character of a short escape. -/
def escaped? (c : Char) : Option Char :=
  [('0', '\x00'), ('a', '\x07'), ('b', '\x08'), ('t', '\x09'), ('\t', '\x09'), ('n', '\x0A'),
   ('v', '\x0B'), ('f', '\x0C'), ('r', '\x0D'), ('e', '\x1B'), (' ', ' '), ('"', '"'),
   ('\\', '\\'), ('/', '/'), ('N', '\u0085'), ('_', '\u00A0'), ('L', '\u2028'),
   ('P', '\u2029')].lookup c

/-- The number of digits of a numeric escape. -/
def escapeLength? (c : Char) : Option Nat :=
  [('x', 2), ('u', 4), ('U', 8)].lookup c

/-- The number that hexadecimal digits stand for. -/
def hexNumber? (digits : List Char) : Option Nat :=
  digits.foldlM (fun value c => (Number.digitValue? 16 c).map (value * 16 + ·)) 0

/-- Reads the digits of a numeric escape. Halves of pairs are never joined. -/
def numericEscape (count : Nat) (cursor : Cursor) : Except Fault (Point × Cursor) :=
  let digits := cursor.rest.take count
  match hexNumber? digits with
  | none => .error .malformed
  | some code =>
    if digits.length < count then .error .malformed
    else if 0x110000 ≤ code then .error (.character code)
    else .ok (.ofCode code, cursor.advance count)

/-- Reads the empty lines inside of a quoted scalar. -/
def quotedBreaks : Nat → Cursor → Except Fault (List Char × Cursor)
  | 0, cursor => .ok ([], cursor)
  | fuel + 1, cursor =>
    if cursor.isSeparator then .error .malformed
    else
      let cursor := cursor.skip fun c => c == ' ' || c == '\t'
      if isBreak cursor.here then do
        let (line, cursor) := cursor.lineEnd
        let (more, cursor) ← quotedBreaks fuel cursor
        return (line ++ more, cursor)
      else .ok ([], cursor)

/-- Reads white space inside of a quoted scalar. A line end becomes a space unless empty lines
follow it. -/
def quotedSpaces (cursor : Cursor) : Except Fault (List Char × Cursor) := do
  let (spaces, cursor) := cursor.span fun c => c == ' ' || c == '\t'
  if isEnd cursor.here then throw .malformed
  if isBreak cursor.here then
    let (line, cursor) := cursor.lineEnd
    let (breaks, cursor) ← quotedBreaks (cursor.rest.length + 1) cursor
    let joint := if line != ['\n'] then line else if breaks.isEmpty then [' '] else []
    return (joint ++ breaks, cursor)
  return (spaces, cursor)

/-- Reads an escape in a scalar with double quotes, behind its mark. -/
def quotedEscape (cursor : Cursor) : Except Fault (List Point × Cursor) :=
  match escaped? cursor.here, escapeLength? cursor.here with
  | some c, _ => .ok ([.char c], cursor.next)
  | none, some count => do
    let (point, cursor) ← numericEscape count cursor.next
    return ([point], cursor)
  | none, none =>
    if isBreak cursor.here then do
      let (breaks, cursor) ← quotedBreaks (cursor.rest.length + 1) cursor.lineEnd.2
      return (breaks.map .char, cursor)
    else .error .malformed

/-- Reads a part of a quoted scalar, which is not closed here: a quote that is written twice, an
escape, white space, or one character. -/
def quotedPart (double : Bool) (cursor : Cursor) : Except Fault (List Point × Cursor) :=
  let c := cursor.here
  if !double && c == '\'' then .ok ([.char c], cursor.advance 2)
  else if double && c == '\\' then quotedEscape cursor.next
  else if isBlankOrEnd c then do
    let (spaces, cursor) ← quotedSpaces cursor
    return (spaces.map .char, cursor)
  else .ok ([.char c], cursor.next)

/-- A quoted scalar is closed at the place. -/
def closesQuoted (double : Bool) (cursor : Cursor) : Bool :=
  if double then cursor.here == '"' else cursor.here == '\'' && cursor.ahead 1 != '\''

/-- Reads the parts of a quoted scalar up to its closing quote. -/
def quotedParts (double : Bool) : Nat → Cursor → Except Fault (List Point × Cursor)
  | 0, _ => .error .malformed
  | fuel + 1, cursor =>
    if closesQuoted double cursor then .ok ([], cursor.next)
    else do
      let (part, cursor) ← quotedPart double cursor
      let (more, cursor) ← quotedParts double fuel cursor
      return (part ++ more, cursor)

/-- Reads a quoted scalar, behind its opening quote. -/
def quoted (double : Bool) (cursor : Cursor) : Except Fault (List Point × Cursor) :=
  quotedParts double (cursor.rest.length + 1) cursor

/-- The plain scalar ends before this character, which `next` follows. -/
def endsPlain (inFlow : Bool) (c next : Char) : Bool :=
  isBlankOrEnd c ||
    (c == ':' && (isBlankOrEnd next || (inFlow && ",[]\x7b\x7d".toList.contains next))) ||
    (inFlow && ",?[]\x7b\x7d".toList.contains c)

/-- The characters of a plain scalar up to white space or its end. -/
def plainWord (inFlow : Bool) : List Char → List Char
  | [] => []
  | c :: rest =>
    if endsPlain inFlow c (rest.headD '\x00') then [] else c :: plainWord inFlow rest

/-- The white space inside of a plain scalar: the characters that it stands for, none where the
scalar cannot go on; whether it holds a line end; the cursor behind it. -/
structure PlainGap where
  text : List Char
  breaks : Bool
  cursor : Cursor

/-- Reads the empty lines inside of a plain scalar; `none` at the mark of a document. -/
def plainBreaks : Nat → Cursor → Option (List Char) × Cursor
  | 0, cursor => (some [], cursor)
  | fuel + 1, cursor =>
    if cursor.here == ' ' then plainBreaks fuel cursor.next
    else if isBreak cursor.here then
      let (line, cursor) := cursor.lineEnd
      if cursor.isSeparator then (none, cursor)
      else
        let (more, cursor) := plainBreaks fuel cursor
        (more.map (line ++ ·), cursor)
    else (some [], cursor)

/-- Reads the white space inside of a plain scalar. -/
def plainGap (cursor : Cursor) : PlainGap :=
  let (spaces, cursor) := cursor.span (· == ' ')
  if isBreak cursor.here then
    let (line, cursor) := cursor.lineEnd
    if cursor.isSeparator then ⟨[], true, cursor⟩
    else
      match plainBreaks (cursor.rest.length + 1) cursor with
      | (none, cursor) => ⟨[], true, cursor⟩
      | (some breaks, cursor) =>
        let joint := if line != ['\n'] then line else if breaks.isEmpty then [' '] else []
        ⟨joint ++ breaks, true, cursor⟩
  else ⟨spaces, false, cursor⟩

/-- A plain scalar: its text, whether white space with a line end was read last, the cursor
behind that white space. -/
structure Plain where
  text : List Char
  breaks : Bool
  cursor : Cursor

/-- Reads the words of a plain scalar after the given white space. -/
def plainWords (inFlow : Bool) (indent : Int) : Nat → PlainGap → Plain
  | 0, gap => ⟨[], gap.breaks, gap.cursor⟩
  | fuel + 1, gap =>
    let word := if gap.cursor.here == '#' then [] else plainWord inFlow gap.cursor.rest
    if word.isEmpty then ⟨[], gap.breaks, gap.cursor⟩
    else
      let next := plainGap (gap.cursor.advance word.length)
      if next.text.isEmpty || next.cursor.here == '#' ||
          (!inFlow && (next.cursor.column : Int) < indent) then
        ⟨gap.text ++ word, next.breaks, next.cursor⟩
      else
        let more := plainWords inFlow indent fuel next
        ⟨gap.text ++ word ++ more.text, more.breaks, more.cursor⟩

/-- Reads a plain scalar inside of a block that is indented to a column, or of none. -/
def plain (inFlow : Bool) (outer : Int) (cursor : Cursor) : Plain :=
  plainWords inFlow (outer + 1) (cursor.rest.length + 1) ⟨[], false, cursor⟩

end Lexeme

end RouteTypes.Yaml
