import RouteTypes.Text.Case
import RouteTypes.Yaml.Node

/-!
# Scalars of YAML

The values that the texts of scalars stand for, by tag. A text that has the form of its tag may
still have no value, for instance a day that the calendar does not know.
-/

namespace RouteTypes.Yaml.Scalar

/-- The number that parts to the base of sixty form, the last part first. -/
def sixtieths (parts : List Int) : Int :=
  parts.foldr (fun part value => part + 60 * value) 0

/-- The text of a number without underscores, its sign, and the text behind the sign. -/
def splitNumber (text : List Char) : Except Fault (Bool × List Char) :=
  match text with
  | [] => .error .empty
  | '-' :: rest => .ok (true, rest)
  | '+' :: rest => .ok (false, rest)
  | rest => .ok (false, rest)

/-- Reads an integer in a base. -/
def integerIn (base : Nat) (text : List Char) : Except Fault Int :=
  (Number.readInteger base (String.ofList text)).mapError .number

/-- The integer that a text without sign and underscores stands for. -/
def positive (text : List Char) : Except Fault Int :=
  match text with
  | [] => .error .empty
  | ['0'] => .ok 0
  | '0' :: 'b' :: rest => integerIn 2 rest
  | '0' :: 'x' :: rest => integerIn 16 rest
  | '0' :: rest => integerIn 8 ('0' :: rest)
  | text =>
    if text.contains ':' then do
      let parts ← (Text.splitOn ':' text).mapM (integerIn 10)
      return sixtieths parts.reverse
    else integerIn 10 text

/-- The integer that a text stands for. -/
def integer (text : List Char) : Except Fault Int := do
  let (negative, rest) ← splitNumber (text.filter (· != '_'))
  let value ← positive rest
  return if negative then -value else value

/-- Reads a number with a fraction. -/
def floatOf (text : List Char) : Except Fault Binary64 :=
  (Number.readFloat (String.ofList text)).mapError .number

/-- The sum of parts to the base of sixty, the last part first. The power of sixty that belongs
to a part must not be too large. -/
def sumSixtieths (base : Nat) (sum : Binary64) : List Binary64 → Except Fault Binary64
  | [] => .ok sum
  | part :: rest =>
    if Binary64.ofInt base == .infinite false then .error .sixtieths
    else sumSixtieths (base * 60) (sum.add (part.mulNat base)) rest

/-- The number with a fraction that a text stands for. -/
def float (text : List Char) : Except Fault Binary64 := do
  let (negative, rest) ← splitNumber (Text.lower (text.filter (· != '_')))
  let value ←
    if rest == ".inf".toList then pure (Binary64.infinite false)
    else if rest == ".nan".toList then pure Binary64.indeterminate
    else if rest.contains ':' then do
      let parts ← (Text.splitOn ':' rest).mapM floatOf
      sumSixtieths 1 (.zero false) parts.reverse
    else floatOf rest
  return if negative then value.neg else value

/-- The truth value that a word stands for. -/
def truth (text : List Char) : Except Fault Bool :=
  let word := String.ofList (Text.lower text)
  if word == "yes" || word == "true" || word == "on" then .ok true
  else if word == "no" || word == "false" || word == "off" then .ok false
  else .error (.truth word)

/-- The microseconds of the digits behind the point of a second. -/
def microseconds (digits : List Char) : Nat :=
  let digits := digits.take 6
  Nat.ofDigitChars 10 (digits ++ List.replicate (6 - digits.length) '0') 0

/-- The date or timestamp that a text stands for. -/
def timestamp (text : List Char) : Except Fault RouteTypes.Scalar := do
  match Tag.timestamp? (Tag.withoutLineEnd text) with
  | none => throw .timestamp
  | some parts =>
    let month := Nat.ofDigitChars 10 parts.month 0
    let day := Nat.ofDigitChars 10 parts.day 0
    match parts.clock with
    | none => .date <$> (Calendar.date parts.year month day).mapError .calendar
    | some (hour, minute, second, fraction, zone) =>
      let offset := zone.map fun minutes => minutes.getD 0
      .timestamp <$> (Calendar.timestamp parts.year month day hour minute second
        (microseconds fraction) offset).mapError .calendar

/-- The six bits that a character stands for. -/
def sixBits? (c : Char) : Option Nat :=
  if 'A' ≤ c && c ≤ 'Z' then some (c.toNat - 65)
  else if 'a' ≤ c && c ≤ 'z' then some (c.toNat - 71)
  else if '0' ≤ c && c ≤ '9' then some (c.toNat + 4)
  else if c == '+' then some 62
  else if c == '/' then some 63
  else none

/-- Decodes groups of four characters; other characters are skipped. `held` are the characters
of the current group, and `pads` counts the padding behind them. A group that is padded in full
ends the text. -/
def binaryFrom (held : List Nat) (pads : Nat) : List Char → Option Bytes
  | [] => if held.isEmpty then some [] else none
  | c :: rest =>
    if c == '=' then
      if 2 ≤ held.length && 4 ≤ held.length + pads + 1 then some []
      else binaryFrom held (if 2 ≤ held.length then pads + 1 else pads) rest
    else
      match sixBits? c, held with
      | none, _ => binaryFrom held pads rest
      | some bits, [] => binaryFrom [bits] 0 rest
      | some bits, [first] =>
        (binaryFrom [first, bits] 0 rest).map (UInt8.ofNat (first * 4 + bits / 16) :: ·)
      | some bits, [first, second] =>
        (binaryFrom [first, second, bits] 0 rest).map
          (UInt8.ofNat (second % 16 * 16 + bits / 4) :: ·)
      | some bits, _ :: _ :: third :: _ =>
        (binaryFrom [] 0 rest).map (UInt8.ofNat (third % 4 * 64 + bits) :: ·)

/-- The bytes that a text stands for. -/
def binary (text : List Char) : Except Fault Bytes :=
  if text.all fun c => c.toNat < 128 then
    match binaryFrom [] 0 text with
    | some bytes => .ok bytes
    | none => .error .malformed
  else .error .malformed

/-- The value of a scalar with a tag. Only strings have halves of pairs in them: nothing else has
the form of its tag with a half, nor with what replaces one. -/
def value (tag : Tag) (points : List Point) : Except Fault RouteTypes.Scalar :=
  let text := points.map Point.toChar
  match tag with
  | .null => .ok .null
  | .bool => .bool <$> truth text
  | .int => .int <$> integer text
  | .float => .float <$> float text
  | .text => .ok (.ofPoints points)
  | .timestamp => timestamp text
  | .binary => .bytes <$> binary text
  | _ => .error .malformed

end RouteTypes.Yaml.Scalar
