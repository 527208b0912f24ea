import RouteTypes.Number.Binary64
import RouteTypes.Text.Blank
import RouteTypes.Text.Digit
import RouteTypes.Text.Quoted

/-!
# Reading numbers

Numbers are written with the decimal digits of any script, blank characters around them and
single underscores between digits. An integer in a base that is no power of two may have at
most 4300 digits, because converting longer ones takes too long.
-/

namespace RouteTypes.Number

/-- Why a text is no integer, or no number. -/
inductive Fault where
  | integer (base : Nat) (text : String)
  | tooLong (digits : Nat)
  | number (text : String)
  deriving DecidableEq, Repr

/-- What the reader of a number is told. -/
def Fault.message : Fault → String
  | .integer base text =>
    s!"invalid literal for int() with base {base}: " ++
      String.ofList ((Text.quoted text).toList.take 200)
  | .tooLong digits =>
    s!"Exceeds the limit (4300 digits) for integer string conversion: value has {digits} " ++
      "digits; use sys.set_int_max_str_digits() to increase the limit"
  | .number text => "could not convert string to float: " ++ Text.quoted text

/-- The most digits that an integer in a base other than a power of two may have. -/
def maxDigits : Nat := 4300

/-- What is told about an integer that has too many digits to be shown. -/
def unshowable : String :=
  "Exceeds the limit (4300 digits) for integer string conversion; " ++
    "use sys.set_int_max_str_digits() to increase the limit"

/-- Characters that may surround a number. The four separators of ASCII may not. -/
def isMargin (c : Char) : Bool :=
  Text.isBlank c && !(28 ≤ c.toNat && c.toNat ≤ 31)

/-- Writes digits of all scripts as those of ASCII, and all margins as spaces. -/
def plainChar (c : Char) : Char :=
  if c.toNat < 128 then if isMargin c then ' ' else c
  else if isMargin c then ' '
  else match Text.decimalValue? c with
    | some value => Char.ofNat (48 + value)
    | none => c

/-- The text of a number, in plain characters and without margins. -/
def plain (text : String) : List Char :=
  let trimmed := (text.toList.map plainChar).dropWhile (· == ' ')
  (trimmed.reverse.dropWhile (· == ' ')).reverse

/-- The value of a digit in bases up to 36. -/
def digitValue? (base : Nat) (c : Char) : Option Nat :=
  let value :=
    if '0' ≤ c ∧ c ≤ '9' then c.toNat - 48
    else if 'a' ≤ c ∧ c ≤ 'z' then c.toNat - 87
    else if 'A' ≤ c ∧ c ≤ 'Z' then c.toNat - 55
    else base
  if value < base then some value else none

/-- A number read from the front of a text: its value, how many digits it has, the rest. -/
structure Digits where
  value : Nat
  count : Nat
  rest : List Char

/-- Reads further digits; an underscore has to stand between two digits. -/
def moreDigits (base : Nat) (value count : Nat) : List Char → Option Digits
  | [] => some ⟨value, count, []⟩
  | '_' :: c :: rest =>
    match digitValue? base c with
    | some digit => moreDigits base (value * base + digit) (count + 1) rest
    | none => none
  | c :: rest =>
    match digitValue? base c with
    | some digit => moreDigits base (value * base + digit) (count + 1) rest
    | none => if c == '_' then none else some ⟨value, count, c :: rest⟩

/-- Reads digits, at least one. -/
def digits? (base : Nat) : List Char → Option Digits
  | [] => none
  | c :: rest =>
    match digitValue? base c with
    | some digit => moreDigits base digit 1 rest
    | none => none

/-- Separates the sign from a number. -/
def splitSign : List Char → Bool × List Char
  | '-' :: rest => (true, rest)
  | '+' :: rest => (false, rest)
  | rest => (false, rest)

/-- The letter that marks a number in the base. -/
def baseLetter? : Nat → Option Char
  | 2 => some 'b'
  | 8 => some 'o'
  | 16 => some 'x'
  | _ => none

/-- Drops the mark of the base, such as `0x`, with an underscore after it. -/
def dropMark (base : Nat) : List Char → List Char
  | '0' :: letter :: rest =>
    if baseLetter? base = some letter.toLower then
      match rest with
      | '_' :: rest => rest
      | rest => rest
    else '0' :: letter :: rest
  | rest => rest

/-- Digits of the base are limited in number. -/
def isLimited (base : Nat) : Bool :=
  (baseLetter? base).isNone

/-- The integer that a text stands for in a base. -/
def readInteger (base : Nat) (text : String) : Except Fault Int :=
  let (negative, unsigned) := splitSign (plain text)
  match digits? base (dropMark base unsigned) with
  | none => .error (.integer base text)
  | some number =>
    if isLimited base && maxDigits < number.count then .error (.tooLong number.count)
    else if number.rest.isEmpty then .ok (Binary64.signed negative number.value)
    else .error (.integer base text)

/-- Reads the digits after a decimal point. -/
def fraction (number : Digits) : Option Digits :=
  match number.rest with
  | '.' :: c :: rest =>
    match digitValue? 10 c with
    | some digit => moreDigits 10 (number.value * 10 + digit) 1 rest
    | none => some ⟨number.value, 0, c :: rest⟩
  | '.' :: [] => some ⟨number.value, 0, []⟩
  | rest => some ⟨number.value, 0, rest⟩

/-- Reads an exponent; what follows the number has to be nothing. -/
def exponent? : List Char → Option Int
  | [] => some 0
  | c :: rest =>
    if c == 'e' || c == 'E' then
      let (negative, unsigned) := splitSign rest
      match digits? 10 unsigned with
      | some ⟨value, _, []⟩ => some (Binary64.signed negative value)
      | _ => none
    else none

/-- Reads a number with a decimal point and an exponent, both optional. -/
def decimal? (negative : Bool) (text : List Char) : Option Binary64 :=
  let start : Option Digits := match text with
    | '.' :: c :: rest =>
      match digitValue? 10 c with
      | some _ => some ⟨0, 0, '.' :: c :: rest⟩
      | none => none
    | text => digits? 10 text
  match start.bind fraction with
  | some number =>
    (exponent? number.rest).map fun exponent =>
      Binary64.ofDecimal negative number.value (exponent - number.count)
  | none => none

/-- The names of the values that are no finite numbers. -/
def named? (negative : Bool) (text : List Char) : Option Binary64 :=
  let lower := text.map Char.toLower
  if lower = "inf".toList || lower = "infinity".toList then some (.infinite negative)
  else if lower = "nan".toList then some .indeterminate
  else none

/-- The floating-point number that a text stands for. -/
def readFloat (text : String) : Except Fault Binary64 :=
  let (negative, unsigned) := splitSign (plain text)
  match named? negative unsigned with
  | some value => .ok value
  | none =>
    match decimal? negative unsigned with
    | some value => .ok value
    | none => .error (.number text)

end RouteTypes.Number
