import RouteTypes.Pattern.Token
import RouteTypes.Text.CharacterName

/-!
# Escapes and sets

A backslash gives the character behind it a meaning of its own: a control, a kind of
characters, a place, a code point or a group. Inside of a set only characters and kinds of
characters make sense.
-/

namespace RouteTypes.Pattern

open Reader

/-- Controls by their letter, and the backslash. -/
def controlOf? : Char → Option Nat
  | 'a' => some 7
  | 'b' => some 8
  | 't' => some 9
  | 'n' => some 10
  | 'v' => some 11
  | 'f' => some 12
  | 'r' => some 13
  | '\\' => some 92
  | _ => none

/-- Kinds of characters by their letter; the capital letter stands for all others. -/
def categoryOf? : Char → Option Member
  | 'd' => some (.category .digit true)
  | 'D' => some (.category .digit false)
  | 's' => some (.category .blank true)
  | 'S' => some (.category .blank false)
  | 'w' => some (.category .word true)
  | 'W' => some (.category .word false)
  | _ => none

/-- Places by their letter. -/
def anchorOf? : Char → Option Anchor
  | 'A' => some .textStart
  | 'b' => some .wordEdge
  | 'B' => some .noWordEdge
  | 'Z' => some .textEnd
  | _ => none

/-- A hexadecimal digit. -/
def isHexDigit (c : Char) : Bool :=
  c.isDigit || ('a' ≤ c && c ≤ 'f') || ('A' ≤ c && c ≤ 'F')

/-- An octal digit. -/
def isOctalDigit (c : Char) : Bool :=
  '0' ≤ c && c ≤ '7'

/-- The value of an ASCII digit. -/
def digitValue (c : Char) : Nat :=
  if c.isDigit then c.toNat - 48
  else if 'a' ≤ c && c ≤ 'f' then c.toNat - 87
  else c.toNat - 55

/-- The number with the given digits. -/
def numberOf (base : Nat) (digits : List Char) : Nat :=
  digits.foldl (fun value c => value * base + digitValue c) 0

/-- A code point of a fixed number of hexadecimal digits. A number that does not even fit in 32 bits
with a sign is no fault of the pattern. -/
def hexCode (letter : Char) (width : Nat) : Reader Nat := do
  let digits ← takeWhile isHexDigit width
  let escape := String.ofList ('\\' :: letter :: digits)
  if digits.length ≠ width then failBefore (.incompleteEscape escape) escape.length
  let code := numberOf 16 digits
  if Nat.pow 2 31 ≤ code then failPlain .hugeCode
  if 0x10FFFF < code then failBefore (.badEscape escape) escape.length
  return code

/-- The code point of a character that is given by its name. -/
def namedCode : Reader Nat := do
  if !(← takeIf '\x7b') then failBefore (.missing "\x7b") 0
  let name ← name '\x7d' "character name"
  match Text.characterNamed? (String.ofList name) with
  | some code => return code
  | none => failBefore (.unknownCharacter (String.ofList name)) (name.length + 4)

/-- The code point that a letter introduces. -/
def code? (letter : Char) : Reader (Option Nat) := do
  match letter with
  | 'x' => some <$> hexCode 'x' 2
  | 'u' => some <$> hexCode 'u' 4
  | 'U' => some <$> hexCode 'U' 8
  | 'N' => some <$> namedCode
  | _ => return none

/-- The code point of up to three octal digits. -/
def octalCode (digits : List Char) : Reader Nat := do
  let code := numberOf 8 digits
  let escape := String.ofList ('\\' :: digits)
  if 0o377 < code then failBefore (.largeOctal escape) escape.length
  return code

/-- Any other character stands for itself, unless it is a letter or digit of ASCII. -/
def plainCode (c : Char) : Reader Nat := do
  if c.isAlphanum then failBefore (.badEscape (String.ofList ['\\', c])) 2
  return c.toNat

/-- The member of a set behind a backslash. -/
def memberEscape (c : Char) : Reader Member := do
  if let some code := controlOf? c then return .one code
  if let some member := categoryOf? c then return member
  if let some code ← code? c then return .one code
  if isOctalDigit c then
    let digits ← takeWhile isOctalDigit 2
    return .one (← octalCode (c :: digits))
  return .one (← plainCode c)

/-- A reference that stands inside of a lookbehind leads out of it. -/
def checkLookbehind (number : Nat) : Reader Unit := do
  let reading ← get
  match reading.outsideLookbehind with
  | none => return ()
  | some count =>
    if !reading.isClosed number then failBefore .openGroup 0
    if count ≤ number then failBefore .groupOfLookbehind 0

/-- A reference to a group, of which the digits are given. -/
def reference (digits : List Char) : Reader Node := do
  let number := numberOf 10 digits
  let reading ← get
  if reading.groupCount ≤ number then failBefore (.noGroup number) digits.length
  if !reading.isClosed number then failBefore .openGroup (digits.length + 1)
  checkLookbehind number
  return .reference number

/-- The character or group behind a backslash and a digit other than zero: three octal digits
are a character. -/
def numberEscape (c : Char) : Reader Node := do
  match ← takeWhile Char.isDigit 1 with
  | [second] =>
    if isOctalDigit c && isOctalDigit second then
      match ← takeWhile isOctalDigit 1 with
      | [third] => return .one (← octalCode [c, second, third])
      | _ => reference [c, second]
    else reference [c, second]
  | _ => reference [c]

/-- The node behind a backslash. -/
def nodeEscape (c : Char) : Reader Node := do
  if let some kind := anchorOf? c then return .anchor kind
  if let some member := categoryOf? c then return .set true [member]
  if let some code := controlOf? c then return .one code
  if let some code ← code? c then return .one code
  if c == '0' then
    let digits ← takeWhile isOctalDigit 2
    return .one (numberOf 8 digits)
  if c.isDigit then numberEscape c
  else return .one (← plainCode c)

/-- The member of a set that a token stands for. -/
def memberOf : List Char → Reader Member
  | [c] => return .one c.toNat
  | ['\\', c] => memberEscape c
  | _ => failBefore .unterminatedSet 0

/-- The members of a set that starts at a position, up to its end. -/
def setMembers (start : Nat) (members : List Member) : Nat → Reader (List Member)
  | 0 => failAt .unterminatedSet start
  | count + 1 => do
    let first ← take
    if first.isEmpty then failAt .unterminatedSet start
    if first == [']'] && !members.isEmpty then return members.reverse
    let member ← memberOf first
    if ← takeIf '-' then
      let last ← take
      if last.isEmpty then failAt .unterminatedSet start
      if last == [']'] then return (.one 45 :: member :: members).reverse
      let bad := Problem.badRange (String.ofList first) (String.ofList last)
      let back := first.length + 1 + last.length
      match member, ← memberOf last with
      | .one low, .one high =>
        if high < low then failBefore bad back
        setMembers start (.range low high :: members) count
      | _, _ => failBefore bad back
    else setMembers start (member :: members) count

/-- A set, whose opening bracket has been taken. -/
def characterSet : Reader Node := do
  let start := (← position) - 1
  let outside ← takeIf '^'
  return .set (!outside) (← setMembers start [] (← tokensLeft))

end RouteTypes.Pattern
