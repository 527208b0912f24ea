import RouteTypes.Pattern.Syntax
import RouteTypes.Text.Blank
import RouteTypes.Text.Digit
import RouteTypes.Text.Spelling
import RouteTypes.Text.Word

/-!
# Searching patterns

A node is matched at a spot of a text and handed what has to match behind it. Alternatives are
tried in order; a repetition tries one more round before or after the rest, by its greed, and a
round that matches nothing is its last.

A round that is not the last takes at least one character, so the length of the rest of the text
bounds the number of rounds.
-/

namespace RouteTypes.Pattern

/-- A spot of a text: the characters before it, backwards, those behind it, and the texts that
groups have matched on the way, the latest first. -/
structure Spot where
  before : List Char
  after : List Char
  index : Nat
  groups : List (Nat × List Char)

/-- What has to match behind a node, and where that ends. -/
abbrev Rest := Spot → Option Spot

namespace Spot

/-- The spot behind the next character. -/
def forward? (spot : Spot) : Option (Char × Spot) :=
  match spot.after with
  | [] => none
  | c :: rest =>
    some (c, { spot with before := c :: spot.before, after := rest, index := spot.index + 1 })

/-- The spot that many characters before. -/
def back? (spot : Spot) : Nat → Option Spot
  | 0 => some spot
  | count + 1 =>
    match spot.before with
    | [] => none
    | c :: rest =>
      back? { spot with before := rest, after := c :: spot.after, index := spot.index - 1 } count

/-- The text between two spots. -/
def textUpTo (spot later : Spot) : List Char :=
  spot.after.take (later.index - spot.index)

end Spot

/-- A character of a kind. -/
def CharKind.holds (ascii : Bool) (kind : CharKind) (c : Char) : Bool :=
  match kind, ascii with
  | .digit, true => c.isDigit
  | .digit, false => Text.isDecimal c
  | .blank, true => c == ' ' || (9 ≤ c.toNat && c.toNat ≤ 13)
  | .blank, false => Text.isBlank c
  | .word, true => c == '_' || c.isAlphanum
  | .word, false => Text.isWord c

/-- The code points that count as equal to a character. -/
def equals (modes : Modes) (c : Char) : List Nat :=
  if !modes.anyCase then [c.toNat]
  else if modes.ascii then [c.toLower.toNat, c.toUpper.toNat]
  else Text.spellings c

/-- A character is what a member of a set stands for. -/
def Member.holds (modes : Modes) (member : Member) (c : Char) : Bool :=
  match member with
  | .one code => (equals modes c).contains code
  | .range first last => (equals modes c).any fun code => first ≤ code && code ≤ last
  | .category kind inside => kind.holds modes.ascii c == inside

/-- Two characters are the same for a reference. -/
def sameChar (modes : Modes) (left right : Char) : Bool :=
  if !modes.anyCase then left == right
  else if modes.ascii then left.toLower == right.toLower
  else Text.foldChar left == Text.foldChar right

/-- A spot is at the edge of a word: of the characters around it, one belongs to a word. -/
def atWordEdge (modes : Modes) (spot : Spot) : Bool :=
  let inWord (text : List Char) := text.head?.any (CharKind.word.holds modes.ascii)
  inWord spot.before != inWord spot.after

/-- A spot is at a place. An empty text has no edges of words, nor spots that are none. -/
def Anchor.holds (modes : Modes) (kind : Anchor) (spot : Spot) : Bool :=
  match kind with
  | .lineStart => spot.before.isEmpty || (modes.manyLines && spot.before.head? == some '\n')
  | .lineEnd =>
    spot.after.isEmpty || spot.after == ['\n'] ||
      (modes.manyLines && spot.after.head? == some '\n')
  | .textStart => spot.before.isEmpty
  | .textEnd => spot.after.isEmpty
  | .wordEdge => atWordEdge modes spot
  | .noWordEdge => !(spot.before.isEmpty && spot.after.isEmpty) && !atWordEdge modes spot

/-- Matches one character. -/
def oneChar (holds : Char → Bool) (spot : Spot) (rest : Rest) : Option Spot :=
  match spot.forward? with
  | some (c, spot) => if holds c then rest spot else none
  | none => none

/-- Matches a text. -/
def wholeText (modes : Modes) : List Char → Spot → Rest → Option Spot
  | [], spot, rest => rest spot
  | c :: text, spot, rest =>
    match spot.forward? with
    | some (found, spot) =>
      if sameChar modes c found then wholeText modes text spot rest else none
    | none => none

/-- Matches a round exactly that many times. -/
def exactly (round : Spot → Rest → Option Spot) : Nat → Spot → Rest → Option Spot
  | 0, spot, rest => rest spot
  | count + 1, spot, rest => round spot fun spot => exactly round count spot rest

/-- Matches a round at most that many times, rather more than less. -/
def rather (round : Spot → Rest → Option Spot) : Nat → Spot → Rest → Option Spot
  | 0, spot, rest => rest spot
  | count + 1, spot, rest =>
    let more := round spot fun next =>
      if next.index == spot.index then rest next else rather round count next rest
    match more with
    | some found => some found
    | none => rest spot

/-- Matches a round at most that many times, rather less than more. -/
def barely (round : Spot → Rest → Option Spot) : Nat → Spot → Rest → Option Spot
  | 0, spot, rest => rest spot
  | count + 1, spot, rest =>
    match rest spot with
    | some found => some found
    | none =>
      round spot fun next =>
        if next.index == spot.index then rest next else barely round count next rest

/-- Matches a round at most that many times and as often as possible. -/
def always (round : Spot → Rest → Option Spot) : Nat → Spot → Spot
  | 0, spot => spot
  | count + 1, spot =>
    match round spot some with
    | some next => if next.index == spot.index then next else always round count next
    | none => spot

/-- A round that never gives back what it has matched. -/
def settled (round : Spot → Rest → Option Spot) (spot : Spot) (rest : Rest) : Option Spot :=
  (round spot some).bind rest

/-- How many rounds there may be behind the required ones. -/
def roundsLeft (least : Nat) (most : Option Nat) (spot : Spot) : Nat :=
  match most with
  | some most => min (most - least) (spot.after.length + 1)
  | none => spot.after.length + 1

/-- Matches a repetition of a round. -/
def repetitions (greed : Greed) (least : Nat) (most : Option Nat)
    (round : Spot → Rest → Option Spot) (spot : Spot) (rest : Rest) : Option Spot :=
  match greed with
  | .greedy =>
    exactly round least spot fun spot => rather round (roundsLeft least most spot) spot rest
  | .lazy =>
    exactly round least spot fun spot => barely round (roundsLeft least most spot) spot rest
  | .possessive =>
    exactly (settled round) least spot fun spot =>
      rest (always round (roundsLeft least most spot) spot)

mutual

/-- Matches a node. -/
def Node.findAt (modes : Modes) : Node → Spot → Rest → Option Spot
  | .one code, spot, rest => oneChar (Member.holds modes (.one code)) spot rest
  | .set inside members, spot, rest =>
    oneChar (fun c => members.any (·.holds modes c) == inside) spot rest
  | .any, spot, rest => oneChar (fun c => modes.acrossLines || c != '\n') spot rest
  | .anchor kind, spot, rest => if kind.holds modes spot then rest spot else none
  | .group number added removed body, spot, rest =>
    sequenceAt (modes.inside added removed) body spot fun next =>
      match number with
      | some number => rest { next with groups := (number, spot.textUpTo next) :: next.groups }
      | none => rest next
  | .atomic body, spot, rest => settled (sequenceAt modes body) spot rest
  | .ahead holds body, spot, rest =>
    match sequenceAt modes body spot some, holds with
    | some found, true => rest { spot with groups := found.groups }
    | none, false => rest spot
    | _, _ => none
  | .behind holds width body, spot, rest =>
    match (spot.back? width.least).bind (fun start => sequenceAt modes body start some), holds with
    | some found, true => rest { spot with groups := found.groups }
    | none, false => rest spot
    | _, _ => none
  | .reference number, spot, rest =>
    match spot.groups.lookup number with
    | some text => wholeText modes text spot rest
    | none => none
  | .conditional number yes no, spot, rest =>
    if (spot.groups.lookup number).isSome then sequenceAt modes yes spot rest
    else sequenceAt modes no spot rest
  | .repeated greed least most body, spot, rest =>
    repetitions greed least most (fun spot rest => sequenceAt modes body spot rest) spot rest
  | .choice branches, spot, rest => choiceAt modes branches spot rest

/-- Matches a sequence. -/
def sequenceAt (modes : Modes) : List Node → Spot → Rest → Option Spot
  | [], spot, rest => rest spot
  | node :: nodes, spot, rest =>
    node.findAt modes spot fun spot => sequenceAt modes nodes spot rest

/-- Matches one of several alternatives. -/
def choiceAt (modes : Modes) : List (List Node) → Spot → Rest → Option Spot
  | [], _, _ => none
  | branch :: branches, spot, rest =>
    match sequenceAt modes branch spot rest with
    | some found => some found
    | none => choiceAt modes branches spot rest

end

/-- A sequence matches somewhere at or behind a spot. -/
def somewhere (modes : Modes) (nodes : List Node) (before : List Char) (index : Nat) :
    List Char → Bool
  | [] => (sequenceAt modes nodes ⟨before, [], index, []⟩ some).isSome
  | c :: rest =>
    (sequenceAt modes nodes ⟨before, c :: rest, index, []⟩ some).isSome ||
      somewhere modes nodes (c :: before) (index + 1) rest

/-- A sequence matches somewhere in a text. -/
def occursIn (modes : Modes) (nodes : List Node) (text : String) : Bool :=
  somewhere modes nodes [] 0 text.toList

end RouteTypes.Pattern
