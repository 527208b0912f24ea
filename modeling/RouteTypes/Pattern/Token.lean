import RouteTypes.Pattern.Fault
import RouteTypes.Pattern.Syntax

/-!
# Tokens of patterns

A pattern is read token by token: a token is a character, or a backslash together with the
character behind it. The reader always knows the next token, so a backslash at the very end is
noticed when the token before it is taken.

Beside its place in the text, the state of the reader holds what the parts of the pattern that
are already read mean for the rest: the modes of the whole pattern, and the groups.
-/

namespace RouteTypes.Pattern

/-- The state of the reader. The next token is empty at the end of the pattern. -/
structure Reading where
  next : List Char
  rest : List Char
  index : Nat
  modes : Modes
  names : List (String × Nat)
  widths : Widths
  outsideLookbehind : Option Nat
  conditions : List (Nat × Nat)

/-- A step of the reader. -/
abbrev Reader := StateT Reading (Except Fault)

/-- The position of the next token. -/
def Reading.position (reading : Reading) : Nat :=
  reading.index - reading.next.length

/-- How many groups there are, the whole pattern included. -/
def Reading.groupCount (reading : Reading) : Nat :=
  reading.widths.length

/-- The group is there and closed. -/
def Reading.isClosed (reading : Reading) (number : Nat) : Bool :=
  ((reading.widths[number]?).bind id).isSome

namespace Reader

/-- Fails at a position. -/
def failAt (problem : Problem) (position : Nat) : Reader α :=
  throw ⟨problem, some position⟩

/-- Fails that many characters before the next token. -/
def failBefore (problem : Problem) (back : Nat) : Reader α := do
  failAt problem ((← get).position - back)

/-- Fails with a problem that has no position. -/
def failPlain (problem : Problem) : Reader α :=
  throw ⟨problem, none⟩

/-- The position of the next token. -/
def position : Reader Nat := do
  return (← get).position

/-- The next token. -/
def peek : Reader (List Char) := do
  return (← get).next

/-- Makes the token behind the next one the next one. -/
def advance : Reader Unit := do
  let reading ← get
  match reading.rest with
  | [] => set { reading with next := [] }
  | '\\' :: [] => failAt .danglingEscape reading.index
  | '\\' :: c :: rest =>
    set { reading with next := ['\\', c], rest := rest, index := reading.index + 2 }
  | c :: rest => set { reading with next := [c], rest := rest, index := reading.index + 1 }

/-- Takes the next token. -/
def take : Reader (List Char) := do
  let token ← peek
  advance
  return token

/-- Takes the next token if it is the given character. -/
def takeIf (c : Char) : Reader Bool := do
  if (← peek) == [c] then
    advance
    return true
  else return false

/-- Takes at most that many tokens that are characters of a kind. -/
def takeWhile (kind : Char → Bool) : Nat → Reader (List Char)
  | 0 => return []
  | count + 1 => do
    match ← peek with
    | [c] =>
      if kind c then
        advance
        return c :: (← takeWhile kind count)
      else return []
    | _ => return []

/-- A bound for the number of tokens that are left. -/
def tokensLeft : Reader Nat := do
  return (← get).rest.length + 2

/-- Takes all tokens that are characters of a kind. -/
def takeAll (kind : Char → Bool) : Reader (List Char) := do
  takeWhile kind (← tokensLeft)

/-- Takes tokens up to and with the given character. Tells whether the character was there. -/
def skipPast (mark : Char) : Nat → Reader Bool
  | 0 => return false
  | count + 1 => do
    match ← take with
    | [] => return false
    | token => if token == [mark] then return true else skipPast mark count

/-- Takes the tokens of a name up to and with the given mark. -/
def nameFrom (mark : Char) (what : String) (taken : List Char) : Nat → Reader (List Char)
  | 0 => failBefore (.missing what) 0
  | count + 1 => do
    match ← take with
    | [] =>
      if taken.isEmpty then failBefore (.missing what) 0
      else failBefore (.unterminatedName mark) taken.length
    | token =>
      if token == [mark] then
        if taken.isEmpty then failBefore (.missing what) 1
        else return taken
      else nameFrom mark what (taken ++ token) count

/-- Takes a name up to and with the given mark. -/
def name (mark : Char) (what : String) : Reader (List Char) := do
  nameFrom mark what [] (← tokensLeft)

end Reader

end RouteTypes.Pattern
