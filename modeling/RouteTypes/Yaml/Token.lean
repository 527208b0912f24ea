import RouteTypes.Yaml.Lexeme

/-!
# Tokens of YAML

A text is cut into tokens: the marks of the language, the starts and ends of blocks that its
indentation implies, and the lexemes. A key is recognised only by the colon behind it, so its
token is put in afterwards, at the place that was remembered when the key was read. Where a text
cannot be divided further, the tokens end in one that tells why.
-/

namespace RouteTypes.Yaml

/-- A token. -/
inductive Token where
  | directive (value : Directive)
  | documentStart
  | documentEnd
  | streamEnd
  | blockSequence
  | blockMapping
  | blockEnd
  | flowSequence
  | flowSequenceEnd
  | flowMapping
  | flowMappingEnd
  | key
  | value
  | blockEntry
  | flowEntry
  | alias (name : List Char)
  | anchor (name : List Char)
  | tag (raw : RawTag)
  | scalar (text : List Point) (plain : Bool)
  | unreadable (fault : Fault)
  deriving DecidableEq, Repr

namespace Token

/-- A place where a key may have started: the number of tokens in front of it, whether the
block allows nothing but a key there, and its position. -/
structure Candidate where
  tokens : Nat
  required : Bool
  index : Nat
  line : Nat
  column : Nat

/-- The state of the division into tokens. The tokens so far are kept in reverse; `candidates`
holds the candidate of each level of flow collections, the innermost first; `indent` is the
column of the innermost block, or minus one outside of all blocks, and `outer` are those of the
blocks around it. -/
structure State where
  cursor : Cursor
  tokens : List Token
  count : Nat
  candidates : List (Option Candidate)
  indent : Int
  outer : List Int
  keyAllowed : Bool

namespace State

/-- The state in front of a text. -/
def start (text : List Char) : State :=
  ⟨.start text, [], 0, [none], -1, [], true⟩

/-- The place is inside of a flow collection. -/
def inFlow (state : State) : Bool :=
  1 < state.candidates.length

/-- Adds a token. -/
def push (state : State) (token : Token) : State :=
  { state with tokens := token :: state.tokens, count := state.count + 1 }

/-- Adds a token behind the given number of tokens. -/
def insert (state : State) (position : Nat) (token : Token) : State :=
  let after := state.count - position
  { state with
    tokens := state.tokens.take after ++ token :: state.tokens.drop after
    count := state.count + 1 }

/-- Moves to another place. -/
def moveTo (state : State) (cursor : Cursor) : State :=
  { state with cursor := cursor }

/-- Moves over a number of characters. -/
def skip (state : State) (count : Nat) : State :=
  state.moveTo (state.cursor.advance count)

/-- Says whether a key may start next. -/
def allowKey (state : State) (allowed : Bool) : State :=
  { state with keyAllowed := allowed }

/-- The candidate of the current level. -/
def candidate (state : State) : Option Candidate :=
  state.candidates.headD none

/-- Sets the candidate of the current level. -/
def setCandidate (state : State) (candidate : Option Candidate) : State :=
  { state with candidates := candidate :: state.candidates.drop 1 }

/-- Gives up the candidate of the current level, which must not be required. -/
def dropCandidate (state : State) : Except Fault State :=
  match state.candidate with
  | some candidate =>
    if candidate.required then .error .malformed else .ok (state.setCandidate none)
  | none => .ok state

/-- A candidate is too old when its line has ended or it is too long. -/
def isStale (state : State) (candidate : Candidate) : Bool :=
  candidate.line != state.cursor.line || candidate.index + 1024 < state.cursor.index

/-- Gives up the candidates that are too old. -/
def dropStale (state : State) : Except Fault State :=
  let isOld := fun (candidate : Option Candidate) => candidate.any state.isStale
  if state.candidates.any fun candidate => isOld candidate && candidate.any (·.required) then
    .error .malformed
  else
    .ok { state with
      candidates := state.candidates.map fun candidate =>
        if isOld candidate then none else candidate }

/-- Remembers that a key may start at the place. -/
def saveCandidate (state : State) : Except Fault State :=
  if state.keyAllowed then do
    let state ← state.dropCandidate
    let required := !state.inFlow && state.indent == state.cursor.column
    return state.setCandidate (some ⟨state.count, required, state.cursor.index,
      state.cursor.line, state.cursor.column⟩)
  else .ok state

/-- Ends the blocks that are indented deeper than a column, given the columns around the
innermost one. -/
def closeBlocks (column : Int) : List Int → State → State
  | outer, state =>
    if column < state.indent then
      match outer with
      | [] => { state.push .blockEnd with indent := -1, outer := [] }
      | next :: rest =>
        closeBlocks column rest { state.push .blockEnd with indent := next, outer := rest }
    else state

/-- Ends the blocks that are indented deeper than a column, outside of flow collections. -/
def unwind (state : State) (column : Int) : State :=
  if state.inFlow then state else closeBlocks column state.outer state

/-- The column is deeper than the innermost block. -/
def isDeeper (state : State) (column : Nat) : Bool :=
  state.indent < column

/-- Starts a block at a column. -/
def indentTo (state : State) (column : Nat) : State :=
  { state with indent := column, outer := state.indent :: state.outer }

/-- Adds a token for the start of a block, when the place is deeper than the innermost one. -/
def openBlock (state : State) (token : Token) : State :=
  if state.isDeeper state.cursor.column then
    (state.push token).indentTo state.cursor.column
  else state

/-- Moves over white space, comments and line ends. Outside of flow collections a key may start
behind a line end. -/
def toNextToken : Nat → State → State
  | 0, state => state
  | fuel + 1, state =>
    let cursor := state.cursor.skipSpaces.skipComment
    if isBreak cursor.here then
      let state := state.moveTo cursor.lineEnd.2
      toNextToken fuel (if state.inFlow then state else state.allowKey true)
    else state.moveTo cursor

/-- Moves over a byte order mark at the start of the text. -/
def skipMark (state : State) : State :=
  if state.cursor.index == 0 && state.cursor.here == '\uFEFF' then state.skip 1 else state

/-- Ends all blocks in front of a mark that belongs to no block. -/
def leaveBlocks (state : State) : Except Fault State := do
  let state ← (state.unwind (-1)).dropCandidate
  return state.allowKey false

/-- Adds the end of the text. -/
def finish (state : State) : Except Fault State := do
  let state ← state.leaveBlocks
  return state.push .streamEnd

/-- Adds a directive. -/
def addDirective (state : State) : Except Fault State := do
  let state ← state.leaveBlocks
  let (found, cursor) ← Lexeme.directive state.cursor.next
  return (state.moveTo cursor).push (.directive found)

/-- Adds the mark of the start or end of a document. -/
def addSeparator (state : State) (token : Token) : Except Fault State := do
  let state ← state.leaveBlocks
  return (state.skip 3).push token

/-- Adds the start of a flow collection. -/
def openFlow (state : State) (token : Token) : Except Fault State := do
  let state ← state.saveCandidate
  let state := { state with candidates := none :: state.candidates }
  return ((state.allowKey true).skip 1).push token

/-- Adds the end of a flow collection. -/
def closeFlow (state : State) (token : Token) : Except Fault State := do
  let state ← state.dropCandidate
  if state.inFlow then
    let state := { state with candidates := state.candidates.drop 1 }
    return ((state.allowKey false).skip 1).push token
  else throw .malformed

/-- Adds the mark between the items of a flow collection. -/
def addFlowEntry (state : State) : Except Fault State := do
  let state ← (state.allowKey true).dropCandidate
  return (state.skip 1).push .flowEntry

/-- Starts a block with a mark, where one may start. -/
def openMarked (state : State) (block : Token) : Except Fault State :=
  if state.inFlow then .ok state
  else if state.keyAllowed then .ok (state.openBlock block)
  else .error .malformed

/-- Adds the mark of an item of a block sequence. -/
def addBlockEntry (state : State) : Except Fault State := do
  let state ← state.openMarked .blockSequence
  let state ← (state.allowKey true).dropCandidate
  return (state.skip 1).push .blockEntry

/-- Adds the mark of a key. -/
def addKey (state : State) : Except Fault State := do
  let state ← state.openMarked .blockMapping
  let state ← (state.allowKey (!state.inFlow)).dropCandidate
  return (state.skip 1).push .key

/-- Adds the mark of a value. It turns what the candidate of the level remembers into a key. -/
def addValue (state : State) : Except Fault State := do
  match state.candidate with
  | some candidate =>
    let state := (state.setCandidate none).insert candidate.tokens .key
    let state :=
      if !state.inFlow && state.isDeeper candidate.column then
        (state.insert candidate.tokens .blockMapping).indentTo candidate.column
      else state
    return ((state.allowKey false).skip 1).push .value
  | none =>
    let state ← state.openMarked .blockMapping
    let state ← (state.allowKey (!state.inFlow)).dropCandidate
    return (state.skip 1).push .value

/-- Adds the token of a lexeme that may be a key. -/
def addLexeme (state : State) (read : Cursor → Except Fault (Token × Cursor)) :
    Except Fault State := do
  let state ← state.saveCandidate
  let (token, cursor) ← read state.cursor
  return ((state.allowKey false).moveTo cursor).push token

/-- Adds a block scalar. -/
def addBlockScalar (state : State) (folded : Bool) : Except Fault State := do
  let state ← (state.allowKey true).dropCandidate
  let (text, cursor) ← Lexeme.block folded state.indent state.cursor.next
  return (state.moveTo cursor).push (.scalar (text.map .char) false)

/-- Adds a plain scalar, behind which a key may start where its last line has ended. -/
def addPlain (state : State) : Except Fault State := do
  let state ← state.saveCandidate
  let plain := Lexeme.plain state.inFlow state.indent state.cursor
  return ((state.allowKey plain.breaks).moveTo plain.cursor).push
    (.scalar (plain.text.map .char) true)

/-- A plain scalar may start at the place. -/
def startsPlain (state : State) : Bool :=
  let c := state.cursor.here
  let next := state.cursor.ahead 1
  !(isBlankOrEnd c || "-?:,[]\x7b\x7d#&*!|>'\"%@`".toList.contains c) ||
    (!isBlankOrEnd next && (c == '-' || (!state.inFlow && (c == '?' || c == ':'))))

/-- Adds the token at the place. -/
def addToken (state : State) : Except Fault State :=
  let cursor := state.cursor
  let c := cursor.here
  let atMargin := cursor.column == 0
  let beforeBlank := isBlankOrEnd (cursor.ahead 1)
  if atMargin && c == '%' then state.addDirective
  else if atMargin && cursor.isMarker '-' then state.addSeparator .documentStart
  else if atMargin && cursor.isMarker '.' then state.addSeparator .documentEnd
  else if c == '[' then state.openFlow .flowSequence
  else if c == '\x7b' then state.openFlow .flowMapping
  else if c == ']' then state.closeFlow .flowSequenceEnd
  else if c == '\x7d' then state.closeFlow .flowMappingEnd
  else if c == ',' then state.addFlowEntry
  else if c == '-' && beforeBlank then state.addBlockEntry
  else if c == '?' && (state.inFlow || beforeBlank) then state.addKey
  else if c == ':' && (state.inFlow || beforeBlank) then state.addValue
  else if c == '*' then
    state.addLexeme fun cursor =>
      (Lexeme.anchor cursor.next).map fun (name, cursor) => (.alias name, cursor)
  else if c == '&' then
    state.addLexeme fun cursor =>
      (Lexeme.anchor cursor.next).map fun (name, cursor) => (.anchor name, cursor)
  else if c == '!' then
    state.addLexeme fun cursor =>
      (Lexeme.tag cursor).map fun (raw, cursor) => (.tag raw, cursor)
  else if c == '|' && !state.inFlow then state.addBlockScalar false
  else if c == '>' && !state.inFlow then state.addBlockScalar true
  else if c == '\'' || c == '"' then
    state.addLexeme fun cursor =>
      (Lexeme.quoted (c == '"') cursor.next).map fun (text, cursor) =>
        (.scalar text false, cursor)
  else if state.startsPlain then state.addPlain
  else .error .malformed

/-- The number of tokens that are sure to stand in front of what follows: a key may still be put
in where a candidate remembers its place. -/
def settled (state : State) : Nat :=
  (state.candidates.filterMap fun candidate =>
    candidate.bind fun candidate =>
      if state.isStale candidate then none else some candidate.tokens).foldl min state.count

/-- The settled tokens, and behind them the fault of what follows. -/
def brokenOff (state : State) (fault : Fault) : List Token :=
  state.tokens.reverse.take state.settled ++ [.unreadable fault]

/-- Moves to the next token, ends the blocks that it does not belong to and adds it. -/
def step (state : State) : Except Fault State := do
  let state := State.toNextToken (state.cursor.rest.length + 1) state.skipMark
  let state ← state.dropStale
  let state := state.unwind state.cursor.column
  if isEnd state.cursor.here then state.finish else state.addToken

end State

/-- Divides the rest of a text into tokens. Every token but the last takes a character, so
`fuel` lasts when it is more than the number of characters. -/
def scanFrom : Nat → State → List Token
  | 0, state => state.brokenOff .malformed
  | fuel + 1, state =>
    match state.step with
    | .error fault => state.brokenOff fault
    | .ok next =>
      if next.tokens.head? == some .streamEnd then next.tokens.reverse else scanFrom fuel next

/-- The tokens of a text. -/
def scan (text : List Char) : List Token :=
  if text.all isAllowed then scanFrom (text.length + 1) (.start text)
  else [.unreadable .malformed]

end Token

end RouteTypes.Yaml
