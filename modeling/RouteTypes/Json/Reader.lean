import RouteTypes.Number.Reading
import RouteTypes.Value

/-!
# Reading JSON

`Json.read` reads one JSON value that fills a whole text. Beyond the standard it accepts the
numbers `NaN`, `Infinity` and `-Infinity`. A key that occurs again in an object keeps its first
position and takes the last value.

Readers return what is left of the text. A fault names the characters that are left where it
occurred, from which its position follows.
-/

namespace RouteTypes.Json

/-- What is wrong at one place of a text. -/
inductive Problem where
  | byteOrderMark
  | value
  | propertyName
  | colon
  | comma
  | extraData
  | unterminated
  | control
  | escape
  | unicodeEscape
  deriving DecidableEq, Repr

/-- Why a text cannot be read: it is no JSON, with `left` characters after the place that shows
it, or it holds an integer that is too long. -/
inductive Stop where
  | malformed (problem : Problem) (left : Nat)
  | number (fault : Number.Fault)
  deriving DecidableEq, Repr

/-- Fails before the given rest of the text. -/
def stop (problem : Problem) (rest : List Char) : Except Stop α :=
  .error (.malformed problem rest.length)

/-- The white space of JSON. -/
def isSpace (c : Char) : Bool :=
  c == ' ' || c == '\t' || c == '\n' || c == '\r'

/-- Drops white space. -/
def skipSpace (text : List Char) : List Char :=
  text.dropWhile isSpace

/-- The value of four hexadecimal digits. -/
def hexFour? : List Char → Option (Nat × List Char)
  | a :: b :: c :: d :: rest => do
    let a ← Number.digitValue? 16 a
    let b ← Number.digitValue? 16 b
    let c ← Number.digitValue? 16 c
    let d ← Number.digitValue? 16 d
    return (((a * 16 + b) * 16 + c) * 16 + d, rest)
  | _ => none

/-- A number that is the first half of a pair for one character. -/
def isHighHalf (code : Nat) : Bool :=
  0xD800 ≤ code && code < 0xDC00

/-- A number that is the second half of a pair for one character. -/
def isLowHalf (code : Nat) : Bool :=
  0xDC00 ≤ code && code < 0xE000

/-- The character of the two halves of a pair. -/
def joinHalves (high low : Nat) : Char :=
  Char.ofNat (0x10000 + (high - 0xD800) * 0x400 + (low - 0xDC00))

/-- The character of a short escape. -/
def escaped? : Char → Option Char
  | '"' => some '"'
  | '\\' => some '\\'
  | '/' => some '/'
  | 'b' => some '\x08'
  | 'f' => some '\x0c'
  | 'n' => some '\n'
  | 'r' => some '\r'
  | 't' => some '\t'
  | _ => none

/-- Reads the digits of a numeric escape, which stand after `\u`. The text must not end with
them. A first half of a pair is joined with a second one that follows; other halves stay. -/
def readUnicode (digits : List Char) : Except Stop (Point × List Char) :=
  match hexFour? digits with
  | none => stop .unicodeEscape ('u' :: digits)
  | some (_, []) => stop .unicodeEscape ('u' :: digits)
  | some (code, rest) =>
    if isHighHalf code then
      match rest with
      | '\\' :: 'u' :: more =>
        if more.length ≤ 4 then .ok (.ofCode code, rest)
        else match hexFour? more with
          | none => stop .unicodeEscape ('u' :: more)
          | some (low, after) =>
            if isLowHalf low then .ok (.char (joinHalves code low), after)
            else .ok (.ofCode code, rest)
      | _ => .ok (.ofCode code, rest)
    else .ok (.ofCode code, rest)

/-- Reads the parts of a string up to its closing quote. Each step takes a character, so
`fuel` lasts when it is the length of the text. `opening` is the number of characters that are
left at the opening quote. -/
def readPoints (opening : Nat) : Nat → List Char → Except Stop (List Point × List Char)
  | 0, _ => .error (.malformed .unterminated opening)
  | _, [] => .error (.malformed .unterminated opening)
  | _ + 1, '"' :: rest => .ok ([], rest)
  | fuel + 1, '\\' :: rest =>
    match rest with
    | [] => .error (.malformed .unterminated opening)
    | 'u' :: digits => do
      let (point, rest) ← readUnicode digits
      let (tail, rest) ← readPoints opening fuel rest
      return (point :: tail, rest)
    | c :: after =>
      match escaped? c with
      | none => stop .escape ('\\' :: rest)
      | some c => do
        let (tail, rest) ← readPoints opening fuel after
        return (.char c :: tail, rest)
  | fuel + 1, c :: rest =>
    if c.toNat < 32 then stop .control (c :: rest)
    else do
      let (tail, rest) ← readPoints opening fuel rest
      return (.char c :: tail, rest)

/-- Reads a string after its opening quote. -/
def readString (text : List Char) : Except Stop (Scalar × List Char) := do
  let (points, rest) ← readPoints (text.length + 1) (text.length + 1) text
  return (.ofPoints points, rest)

/-- A decimal digit of JSON. -/
def isDigit (c : Char) : Bool :=
  '0' ≤ c && c ≤ '9'

/-- The digits at the front of a text and what follows them. -/
def spanDigits (text : List Char) : List Char × List Char :=
  (text.takeWhile isDigit, text.dropWhile isDigit)

/-- The digits of a whole number: a zero alone, or digits that start with another one. -/
def wholeDigits : List Char → Option (List Char × List Char)
  | '0' :: rest => some (['0'], rest)
  | c :: rest => if isDigit c then some (spanDigits (c :: rest)) else none
  | [] => none

/-- The digits after a decimal point, where there is one with a digit. -/
def fractionDigits (text : List Char) : List Char × List Char :=
  match text with
  | '.' :: c :: rest => if isDigit c then spanDigits (c :: rest) else ([], text)
  | _ => ([], text)

/-- The exponent, where there is one with a digit. -/
def exponentPart (text : List Char) : Option Int × List Char :=
  match text with
  | c :: rest =>
    if c == 'e' || c == 'E' then
      let (negative, unsigned) := Number.splitSign rest
      match spanDigits unsigned with
      | ([], _) => (none, text)
      | (digits, rest) => (some (Binary64.signed negative (Nat.ofDigitChars 10 digits 0)), rest)
    else (none, text)
  | [] => (none, text)

/-- The number with the given parts: an integer where it has neither fraction nor exponent. -/
def number (negative : Bool) (whole fraction : List Char) (exponent : Option Int) :
    Except Stop Scalar :=
  if fraction.isEmpty && exponent.isNone then
    if Number.maxDigits < whole.length then .error (.number (.tooLong whole.length))
    else .ok (.int (Binary64.signed negative (Nat.ofDigitChars 10 whole 0)))
  else
    let digits := Nat.ofDigitChars 10 (whole ++ fraction) 0
    .ok (.float (Binary64.ofDecimal negative digits (exponent.getD 0 - fraction.length)))

/-- Reads a number after its sign. -/
def readNumber (negative : Bool) (text : List Char) : Option (Except Stop (Scalar × List Char)) :=
  (wholeDigits text).map fun (whole, rest) => do
    let (fraction, rest) := fractionDigits rest
    let (exponent, rest) := exponentPart rest
    let scalar ← number negative whole fraction exponent
    return (scalar, rest)

/-- The words that stand for scalars. -/
def words : List (List Char × Scalar) :=
  [("null".toList, .null), ("true".toList, .bool true), ("false".toList, .bool false),
   ("NaN".toList, .float .indeterminate), ("Infinity".toList, .float (.infinite false)),
   ("-Infinity".toList, .float (.infinite true))]

/-- Reads one of the words. -/
def readWord? (text : List Char) : Option (Scalar × List Char) :=
  (words.find? fun word => word.1.isPrefixOf text).map fun word =>
    (word.2, text.drop word.1.length)

/-- Reads a word or a number. -/
def readScalar (text : List Char) : Except Stop (Scalar × List Char) :=
  match readWord? text with
  | some result => .ok result
  | none =>
    let (negative, unsigned) := match text with
      | '-' :: rest => (true, rest)
      | rest => (false, rest)
    match readNumber negative unsigned with
    | some result => result
    | none => stop .value text

mutual

/-- Reads a value. Every value takes at least one character, so `fuel` lasts when it is more
than the length of the text. -/
def readValue : Nat → List Char → Except Stop (Value × List Char)
  | 0, text => stop .value text
  | fuel + 1, text =>
    match text with
    | '"' :: rest => do
      let (scalar, rest) ← readString rest
      return (.scalar scalar, rest)
    | '\x7b' :: rest =>
      match skipSpace rest with
      | '\x7d' :: rest => .ok (.mapping [], rest)
      | rest => do
        let (entries, rest) ← readMembers fuel [] rest
        return (.mapping entries, rest)
    | '[' :: rest =>
      match skipSpace rest with
      | ']' :: rest => .ok (.list [], rest)
      | rest => do
        let (items, rest) ← readItems fuel rest
        return (.list items, rest)
    | _ => do
      let (scalar, rest) ← readScalar text
      return (.scalar scalar, rest)

/-- Reads the members of an object after its opening brace, given those before them. -/
def readMembers : Nat → Entries → List Char → Except Stop (Entries × List Char)
  | 0, _, text => stop .propertyName text
  | fuel + 1, entries, text =>
    match text with
    | '"' :: rest => do
      let (name, rest) ← readString rest
      match skipSpace rest with
      | ':' :: rest => do
        let (value, rest) ← readValue fuel (skipSpace rest)
        let entries := Entries.put entries name value
        match skipSpace rest with
        | '\x7d' :: rest => .ok (entries, rest)
        | ',' :: rest => readMembers fuel entries (skipSpace rest)
        | rest => stop .comma rest
      | rest => stop .colon rest
    | _ => stop .propertyName text

/-- Reads the items of an array after its opening bracket. -/
def readItems : Nat → List Char → Except Stop ((List Value) × List Char)
  | 0, text => stop .value text
  | fuel + 1, text => do
    let (item, rest) ← readValue fuel text
    match skipSpace rest with
    | ']' :: rest => .ok ([item], rest)
    | ',' :: rest => do
      let (items, rest) ← readItems fuel (skipSpace rest)
      return (item :: items, rest)
    | rest => stop .comma rest

end

/-- Reads the one value that a text holds. -/
def readText (text : List Char) : Except Stop Value :=
  match text with
  | '\uFEFF' :: _ => stop .byteOrderMark text
  | _ => do
    let (value, rest) ← readValue (2 * text.length + 2) (skipSpace text)
    match skipSpace rest with
    | [] => .ok value
    | rest => stop .extraData rest

/-- A place in a text: its line and column, counted from one, and how many characters stand
before it. -/
structure Place where
  line : Nat
  column : Nat
  offset : Nat
  deriving DecidableEq, Repr

/-- The place in front of which `before` stands. -/
def Place.after (before : List Char) : Place where
  line := before.count '\n' + 1
  column := (before.reverse.takeWhile (· != '\n')).length + 1
  offset := before.length

/-- Why a text cannot be read. -/
inductive Fault where
  | malformed (problem : Problem) (place : Place)
  | number (fault : Number.Fault)
  deriving DecidableEq, Repr

/-- The fault that stopped the reading of a text. -/
def Stop.inText (text : List Char) : Stop → Fault
  | .malformed problem left => .malformed problem (.after (text.take (text.length - left)))
  | .number fault => .number fault

/-- The JSON value that a text holds. -/
def read (text : String) : Except Fault Value :=
  (readText text.toList).mapError (Stop.inText text.toList)

/-- What the reader is told about a problem. -/
def Problem.message : Problem → String
  | .byteOrderMark => "Unexpected UTF-8 BOM (decode using utf-8-sig)"
  | .value => "Expecting value"
  | .propertyName => "Expecting property name enclosed in double quotes"
  | .colon => "Expecting ':' delimiter"
  | .comma => "Expecting ',' delimiter"
  | .extraData => "Extra data"
  | .unterminated => "Unterminated string starting at"
  | .control => "Invalid control character at"
  | .escape => "Invalid \\escape"
  | .unicodeEscape => "Invalid \\uXXXX escape"

/-- A place as it is shown. -/
def Place.message (place : Place) : String :=
  s!"line {place.line} column {place.column} (char {place.offset})"

/-- What the reader of a text is told. -/
def Fault.message : Fault → String
  | .malformed problem place => problem.message ++ ": " ++ place.message
  | .number fault => fault.message

end RouteTypes.Json
