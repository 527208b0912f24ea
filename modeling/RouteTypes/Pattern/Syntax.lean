/-!
# Patterns

A pattern is a sequence of nodes. A node stands for characters, for a place between characters,
or for other sequences: alternatives, repetitions, groups that remember what they matched, and
conditions on the text around a place.

The modes of a pattern may be changed for a group. A lookbehind has a fixed width, so every
sequence has a least and a greatest width.
-/

namespace RouteTypes.Pattern

/-- The modes in which a part of a pattern is read and searched. -/
structure Modes where
  anyCase : Bool
  manyLines : Bool
  acrossLines : Bool
  spaced : Bool
  ascii : Bool
  unicode : Bool
  unrepeated : Bool
  deriving DecidableEq, Repr

namespace Modes

/-- No mode. -/
def none : Modes := ⟨false, false, false, false, false, false, false⟩

/-- The modes of both. -/
def join (left right : Modes) : Modes :=
  ⟨left.anyCase || right.anyCase, left.manyLines || right.manyLines,
    left.acrossLines || right.acrossLines, left.spaced || right.spaced,
    left.ascii || right.ascii, left.unicode || right.unicode,
    left.unrepeated || right.unrepeated⟩

/-- The modes of both. -/
def meet (left right : Modes) : Modes :=
  ⟨left.anyCase && right.anyCase, left.manyLines && right.manyLines,
    left.acrossLines && right.acrossLines, left.spaced && right.spaced,
    left.ascii && right.ascii, left.unicode && right.unicode,
    left.unrepeated && right.unrepeated⟩

/-- The modes of the first that the second has not. -/
def without (left right : Modes) : Modes :=
  ⟨left.anyCase && !right.anyCase, left.manyLines && !right.manyLines,
    left.acrossLines && !right.acrossLines, left.spaced && !right.spaced,
    left.ascii && !right.ascii, left.unicode && !right.unicode,
    left.unrepeated && !right.unrepeated⟩

/-- The modes name an alphabet. -/
def namesAlphabet (modes : Modes) : Bool :=
  modes.ascii || modes.unicode

/-- The modes inside of a group. An alphabet replaces the one outside. -/
def inside (modes added removed : Modes) : Modes :=
  let outer := if added.namesAlphabet then { modes with ascii := false, unicode := false }
    else modes
  (outer.join added).without removed

/-- The mode with the given letter. -/
def ofLetter? : Char → Option Modes
  | 'i' => some { none with anyCase := true }
  | 'm' => some { none with manyLines := true }
  | 's' => some { none with acrossLines := true }
  | 'x' => some { none with spaced := true }
  | 'a' => some { none with ascii := true }
  | 'u' => some { none with unicode := true }
  | 't' => some { none with unrepeated := true }
  | _ => Option.none

end Modes

/-- Kinds of characters. -/
inductive CharKind where
  | digit
  | blank
  | word
  deriving DecidableEq, Repr

/-- What a character of a set may be. -/
inductive Member where
  | one (code : Nat)
  | range (first last : Nat)
  | category (kind : CharKind) (inside : Bool)
  deriving DecidableEq, Repr

/-- Places between characters. -/
inductive Anchor where
  | lineStart
  | lineEnd
  | textStart
  | textEnd
  | wordEdge
  | noWordEdge
  deriving DecidableEq, Repr

/-- How a repetition deals with what it could match: as much as possible, as little as
possible, or as much as possible without giving anything back. -/
inductive Greed where
  | greedy
  | lazy
  | possessive
  deriving DecidableEq, Repr

/-- The least and the greatest number of characters that a sequence matches. -/
structure Width where
  least : Nat
  most : Nat
  deriving DecidableEq, Repr

/-- A node of a pattern. -/
inductive Node where
  | one (code : Nat)
  | set (inside : Bool) (members : List Member)
  | any
  | anchor (kind : Anchor)
  | group (number : Option Nat) (added removed : Modes) (body : List Node)
  | atomic (body : List Node)
  | ahead (holds : Bool) (body : List Node)
  | behind (holds : Bool) (width : Width) (body : List Node)
  | reference (number : Nat)
  | conditional (number : Nat) (yes no : List Node)
  | repeated (greed : Greed) (least : Nat) (most : Option Nat) (body : List Node)
  | choice (branches : List (List Node))
  deriving Repr

namespace Width

/-- A width that no sequence exceeds. -/
def limit : Nat := Nat.pow 2 64

/-- The width of nothing. -/
def zero : Width := ⟨0, 0⟩

/-- The width of one character. -/
def single : Width := ⟨1, 1⟩

/-- The width of two sequences one after the other. -/
def add (left right : Width) : Width :=
  ⟨min limit (left.least + right.least), min limit (left.most + right.most)⟩

/-- The width of one of two sequences. -/
def either (left right : Width) : Width :=
  ⟨min left.least right.least, max left.most right.most⟩

/-- The width of a repetition. -/
def times (width : Width) (least : Nat) (most : Option Nat) : Width :=
  let greatest := match most with
    | some most => width.most * most
    | none => if width.most == 0 then 0 else limit
  ⟨min limit (width.least * least), min limit greatest⟩

end Width

/-- The widths of the groups by number; open groups have none. -/
abbrev Widths := List (Option Width)

mutual

/-- The width of a node. -/
def Node.width (groups : Widths) : Node → Width
  | .one _ => .single
  | .set _ _ => .single
  | .any => .single
  | .anchor _ => .zero
  | .group _ _ _ body => sequenceWidth groups body
  | .atomic body => sequenceWidth groups body
  | .ahead _ _ => .zero
  | .behind _ _ _ => .zero
  | .reference number => ((groups[number]?).bind id).getD .zero
  | .conditional _ yes no => (sequenceWidth groups yes).either (sequenceWidth groups no)
  | .repeated _ least most body => (sequenceWidth groups body).times least most
  | .choice branches => choiceWidth groups branches

/-- The width of a sequence. -/
def sequenceWidth (groups : Widths) : List Node → Width
  | [] => .zero
  | node :: rest => (node.width groups).add (sequenceWidth groups rest)

/-- The width of alternatives. -/
def choiceWidth (groups : Widths) : List (List Node) → Width
  | [] => ⟨Width.limit, 0⟩
  | branch :: rest => (sequenceWidth groups branch).either (choiceWidth groups rest)

end

end RouteTypes.Pattern
