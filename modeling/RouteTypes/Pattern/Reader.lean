import RouteTypes.Pattern.Escape
import RouteTypes.Text.Identifier

/-!
# Reading patterns

A pattern is alternatives of sequences; groups hold alternatives again. The reader goes down
into groups with a budget that exceeds what the length of the pattern can use up.
-/

namespace RouteTypes.Pattern

open Reader

/-- A letter of a mode; one of them has no meaning for text. -/
def isFlag : List Char → Bool
  | [c] => (Modes.ofLetter? c).isSome || c == 'L'
  | _ => false

/-- The problem with a token that is no flag. -/
def flagProblem (token : List Char) (what : String) : Problem :=
  match token with
  | [c] => if Text.isLetter c then .unknownFlag else .missing what
  | _ => .missing what

/-- Takes a token and makes sure that it is a flag or one of the given marks. -/
def flagOr (marks : List (List Char)) (what : String) : Reader (List Char) := do
  let token ← take
  if token.isEmpty then failBefore (.missing what) 0
  if marks.contains token || isFlag token then return token
  failBefore (flagProblem token what) token.length

/-- The modes that are turned on, from a flag on, and the mark behind them. -/
def flagsOn (added : Modes) (token : List Char) : Nat → Reader (Modes × List Char)
  | 0 => failBefore .unexpectedEnd 0
  | count + 1 => do
    match (token.head?).bind Modes.ofLetter? with
    | none => failBefore .localeFlag 0
    | some mode =>
      let added := added.join mode
      if mode.namesAlphabet && added.ascii && added.unicode then failBefore .mixedAlphabets 0
      let token ← flagOr [[')'], ['-'], [':']] "-, : or )"
      if isFlag token then flagsOn added token count else return (added, token)

/-- The modes that are turned off, from a flag up to the colon. -/
def flagsOff (removed : Modes) (token : List Char) : Nat → Reader Modes
  | 0 => failBefore .unexpectedEnd 0
  | count + 1 => do
    match (token.head?).bind Modes.ofLetter? with
    | none => failBefore .alphabetOff 0
    | some mode =>
      if mode.namesAlphabet then failBefore .alphabetOff 0
      let removed := removed.join mode
      let token ← flagOr [[':']] ":"
      if isFlag token then flagsOff removed token count else return removed

/-- The modes that a group turns on and off, or nothing if they hold for the whole pattern. -/
def flags (token : List Char) : Reader (Option (Modes × Modes)) := do
  let count ← tokensLeft
  let (added, mark) ← if token == ['-'] then pure (Modes.none, token)
    else flagsOn .none token count
  if mark == [')'] then
    modify fun reading => { reading with modes := reading.modes.join added }
    return none
  if added.unrepeated then failBefore (.globalFlag true) 1
  let removed ← if mark == ['-'] then flagsOff .none (← flagOr [] "flag") count
    else pure Modes.none
  if removed.unrepeated then failBefore (.globalFlag false) 1
  if added.meet removed ≠ .none then failBefore .flagOnAndOff 1
  return some (added, removed)

/-- Takes the name of a group up to the given mark. -/
def groupName (mark : Char) : Reader (List Char) := do
  let name ← name mark "group name"
  if !Text.isIdentifier name then
    failBefore (.badName (String.ofList name)) (name.length + 1)
  return name

/-- The number of the group with the given name. -/
def groupNamed (name : List Char) : Reader Nat := do
  match (← get).names.lookup (String.ofList name) with
  | some number => return number
  | none => failBefore (.unknownName (String.ofList name)) (name.length + 1)

/-- A reference to a group by its name. -/
def namedReference : Reader Node := do
  let name ← groupName ')'
  let number ← groupNamed name
  if !(← get).isClosed number then failBefore .openGroup (name.length + 1)
  checkLookbehind number
  return .reference number

/-- Opens a group. -/
def openGroup (name : Option (List Char)) : Reader Nat := do
  let reading ← get
  let number := reading.groupCount
  match name with
  | none => set { reading with widths := reading.widths ++ [none] }
  | some name =>
    let text := String.ofList name
    match reading.names.lookup text with
    | some first => failBefore (.repeatedName text number first) (name.length + 1)
    | none =>
      set { reading with
        widths := reading.widths ++ [none], names := reading.names ++ [(text, number)] }
  return number

/-- Closes a group. -/
def closeGroup (number : Nat) (body : List Node) : Reader Unit :=
  modify fun reading =>
    { reading with widths := reading.widths.set number (sequenceWidth reading.widths body) }

/-- More groups than a pattern may have. -/
def groupLimit : Nat := 1073741823

/-- The group that a condition asks for, by name or number. -/
def conditionGroup : Reader Nat := do
  let name ← name ')' "group name"
  let back := name.length + 1
  let number ←
    if Text.isIdentifier name then groupNamed name
    else
      let bad := Problem.badName (String.ofList name)
      match Number.readInteger 10 (String.ofList name) with
      | .error _ => failBefore bad back
      | .ok value =>
        if value < 0 then failBefore bad back
        let number := value.toNat
        if number == 0 then failBefore .groupZero back
        if groupLimit ≤ number then failBefore (.noGroup number) back
        let place := (← position) - back
        modify fun reading =>
          if reading.conditions.any fun condition => condition.1 == number then reading
          else { reading with conditions := reading.conditions ++ [(number, place)] }
        pure number
  checkLookbehind number
  return number

/-- A bound for the number of repetitions. -/
def bound (digits : List Char) : Reader Nat := do
  if Number.maxDigits < digits.length then failPlain (.longBound digits.length)
  let value := numberOf 10 digits
  if 4294967295 ≤ value then failPlain .largeBound
  return value

/-- The bounds of a repetition behind an opening brace, or nothing if the brace stands for
itself. -/
def braceBounds : Reader (Option (Nat × Option Nat)) := do
  let start ← get
  if (← peek) == ['\x7d'] then return none
  let low ← takeAll Char.isDigit
  let comma ← takeIf ','
  let high ← if comma then takeAll Char.isDigit else pure low
  if !(← takeIf '\x7d') then
    set start
    return none
  let least ← if low.isEmpty then pure 0 else bound low
  if high.isEmpty then return some (least, none)
  let most ← bound high
  if most < least then failAt .reversedBounds start.position
  return some (least, some most)

/-- The bounds of a repetition behind the given mark. -/
def bounds (mark : Char) : Reader (Option (Nat × Option Nat)) := do
  match mark with
  | '?' => return some (0, some 1)
  | '*' => return some (0, none)
  | '+' => return some (1, none)
  | _ => braceBounds

/-- A repetition of the last node of a sequence, which is given backwards. The mark stands
before the given position. -/
def repetition (start : Nat) (least : Nat) (most : Option Nat) :
    List Node → Reader (List Node)
  | [] => failAt .nothingToRepeat (start - 1)
  | .anchor _ :: _ => failAt .nothingToRepeat (start - 1)
  | .repeated _ _ _ _ :: _ => failAt .repeatedTwice (start - 1)
  | node :: before => do
    if ← takeIf '?' then return .repeated .lazy least most [node] :: before
    if ← takeIf '+' then return .repeated .possessive least most [node] :: before
    return .repeated .greedy least most [node] :: before

/-- White space that a spaced pattern may hold. -/
def isSpacing (c : Char) : Bool :=
  c == ' ' || (9 ≤ c.toNat && c.toNat ≤ 13)

/-- Makes sure that a group that was opened at a position ends here. -/
def closing (start : Nat) : Reader Unit := do
  if !(← takeIf ')') then failAt .unterminatedGroup start

/-- What stands behind the opening of a group. -/
inductive Opening where
  | capture (name : Option (List Char))
  | plain (added removed : Modes)
  | atomic
  | look (behind holds : Bool)
  | condition (number : Nat)
  | whole (node : Option Node)

/-- Reads the opening of a group at a position behind the question mark. -/
def extension (start : Nat) (atStart : Bool) : Reader Opening := do
  let token ← take
  match token with
  | [] => failBefore .unexpectedEnd 0
  | ['P'] =>
    if ← takeIf '<' then return .capture (some (← groupName '>'))
    if ← takeIf '=' then return .whole (some (← namedReference))
    let token ← take
    if token.isEmpty then failBefore .unexpectedEnd 0
    failBefore (.unknownExtension (String.ofList ('P' :: token))) (token.length + 2)
  | [':'] => return .plain .none .none
  | ['#'] =>
    if (← peek).isEmpty then failAt .unterminatedComment start
    if ← skipPast ')' (← tokensLeft) then return .whole none
    failAt .unterminatedComment start
  | ['='] => return .look false true
  | ['!'] => return .look false false
  | ['<'] =>
    let token ← take
    match token with
    | [] => failBefore .unexpectedEnd 0
    | ['='] => return .look true true
    | ['!'] => return .look true false
    | token =>
      failBefore (.unknownExtension (String.ofList ('<' :: token))) (token.length + 2)
  | ['('] => return .condition (← conditionGroup)
  | ['>'] => return .atomic
  | token =>
    if isFlag token || token == ['-'] then
      match ← flags token with
      | some (added, removed) => return .plain added removed
      | none =>
        if !atStart then failAt .lateFlags start
        return .whole none
    else failBefore (.unknownExtension (String.ofList token)) (token.length + 1)

mutual

/-- Reads alternatives. Those of the whole pattern are at the top. -/
def alternatives (top spaced : Bool) : Nat → Reader (List Node)
  | 0 => failBefore .unexpectedEnd 0
  | budget + 1 => do
    let first ← sequence spaced top [] budget
    let others ← branches top spaced budget
    return if others.isEmpty then first else [.choice (first :: others)]

/-- Reads the alternatives behind the first one. -/
def branches (top spaced : Bool) : Nat → Reader (List (List Node))
  | 0 => failBefore .unexpectedEnd 0
  | budget + 1 => do
    if !(← takeIf '|') then return []
    let spaced ← if top then pure (← get).modes.spaced else pure spaced
    let branch ← sequence spaced false [] budget
    return branch :: (← branches top spaced budget)

/-- Reads a sequence, of which the nodes read so far are given backwards. The modes of the whole
pattern may only be set at its very start. -/
def sequence (spaced atStart : Bool) (nodes : List Node) : Nat → Reader (List Node)
  | 0 => failBefore .unexpectedEnd 0
  | budget + 1 => do
    match ← peek with
    | [] => return nodes.reverse
    | ['|'] => return nodes.reverse
    | [')'] => return nodes.reverse
    | ['\\', c] =>
      advance
      let node ← nodeEscape c
      sequence spaced atStart (node :: nodes) budget
    | token => do
      advance
      let c := token.headD ' '
      if spaced && isSpacing c then sequence spaced atStart nodes budget
      else if spaced && c == '#' then
        let _ ← skipPast '\n' (← tokensLeft)
        sequence spaced atStart nodes budget
      else
        match c with
        | '[' => do
          let node ← characterSet
          sequence spaced atStart (node :: nodes) budget
        | '.' => sequence spaced atStart (.any :: nodes) budget
        | '^' => sequence spaced atStart (.anchor .lineStart :: nodes) budget
        | '$' => sequence spaced atStart (.anchor .lineEnd :: nodes) budget
        | '(' => do
          let (node, spaced) ← group spaced (atStart && nodes.isEmpty) budget
          sequence spaced atStart (node.toList ++ nodes) budget
        | c =>
          if c == '?' || c == '*' || c == '+' || c == '\x7b' then do
            let start ← position
            match ← bounds c with
            | none => sequence spaced atStart (.one c.toNat :: nodes) budget
            | some (least, most) => do
              let nodes ← repetition start least most nodes
              sequence spaced atStart nodes budget
          else sequence spaced atStart (.one c.toNat :: nodes) budget

/-- Reads a group, whose opening parenthesis has been taken, and tells whether what follows is
spaced. -/
def group (spaced atStart : Bool) : Nat → Reader (Option Node × Bool)
  | 0 => failBefore .unexpectedEnd 0
  | budget + 1 => do
    let start := (← position) - 1
    let opening ← if ← takeIf '?' then extension start atStart else pure (.capture none)
    match opening with
    | .whole none => return (none, spaced || (← get).modes.spaced)
    | .whole (some node) => return (some node, spaced)
    | .capture name => do
      let number ← openGroup name
      let body ← alternatives false spaced budget
      closing start
      closeGroup number body
      return (some (.group (some number) .none .none body), spaced)
    | .plain added removed => do
      let body ← alternatives false ((spaced || added.spaced) && !removed.spaced) budget
      closing start
      return (some (.group none added removed body), spaced)
    | .atomic => do
      let body ← alternatives false spaced budget
      closing start
      return (some (.atomic body), spaced)
    | .look false holds => do
      let body ← alternatives false spaced budget
      closing start
      return (some (.ahead holds body), spaced)
    | .look true holds => do
      let outer := (← get).outsideLookbehind
      modify fun reading =>
        { reading with outsideLookbehind := some (outer.getD reading.groupCount) }
      let body ← alternatives false spaced budget
      modify fun reading => { reading with outsideLookbehind := outer }
      closing start
      return (some (.behind holds (sequenceWidth (← get).widths body) body), spaced)
    | .condition number => do
      let yes ← sequence spaced false [] budget
      let no ← if ← takeIf '|' then sequence spaced false [] budget else pure []
      if (← peek) == ['|'] then failBefore .manyBranches 0
      closing start
      return (some (.conditional number yes no), spaced)

end

/-- The greatest width of a lookbehind. -/
def lookbehindLimit : Nat := 4294967295

/-- The name of a repetition in the mode that forbids repetitions. -/
def Greed.name : Greed → String
  | .greedy => "MAX_REPEAT"
  | .lazy => "MIN_REPEAT"
  | .possessive => "POSSESSIVE_REPEAT"

mutual

/-- The first problem of a node that only shows when the whole pattern is known. -/
def Node.defect? (modes : Modes) : Node → Option Problem
  | .group _ added removed body => sequenceDefect? (modes.inside added removed) body
  | .atomic body => sequenceDefect? modes body
  | .ahead _ body => sequenceDefect? modes body
  | .behind _ width body =>
    if lookbehindLimit < width.least then some .farLookbehind
    else if width.least ≠ width.most then some .lookbehindWidth
    else sequenceDefect? modes body
  | .conditional _ yes no => (sequenceDefect? modes yes).or (sequenceDefect? modes no)
  | .repeated greed _ _ body =>
    if modes.unrepeated then some (.repeatedTemplate greed.name)
    else sequenceDefect? modes body
  | .choice branches => choiceDefect? modes branches
  | _ => none

/-- The first problem of a sequence that only shows when the whole pattern is known. -/
def sequenceDefect? (modes : Modes) : List Node → Option Problem
  | [] => none
  | node :: rest => (node.defect? modes).or (sequenceDefect? modes rest)

/-- The first problem of alternatives that only shows when the whole pattern is known. -/
def choiceDefect? (modes : Modes) : List (List Node) → Option Problem
  | [] => none
  | branch :: rest => (sequenceDefect? modes branch).or (choiceDefect? modes rest)

end

/-- Reads a whole pattern: its modes and its nodes. -/
def whole (budget : Nat) : Reader (Modes × List Node) := do
  advance
  let nodes ← alternatives true false budget
  let reading ← get
  if reading.modes.ascii && reading.modes.unicode then failPlain .twoAlphabets
  if !reading.next.isEmpty then failBefore .unbalanced 0
  match reading.conditions.find? fun condition => reading.groupCount ≤ condition.1 with
  | some (number, place) => failAt (.noGroup number) place
  | none => pure ()
  match sequenceDefect? reading.modes nodes with
  | some problem => failPlain problem
  | none => return (reading.modes, nodes)

/-- Reads a pattern. -/
def read (pattern : String) : Except Fault (Modes × List Node) :=
  let text := pattern.toList
  let start : Reading := ⟨[], text, 0, .none, [], [none], none, []⟩
  (whole (8 * text.length + 16)).run' start

end RouteTypes.Pattern
