import RouteTypes.Text.Split
import RouteTypes.Yaml.Fault

/-!
# Tags of YAML

A tag says what kind of value a node stands for. The tag of a plain scalar follows from its
text: this module holds the forms of the texts that stand for truth values, numbers, dates and
the absent value, and everything else is a string.
-/

namespace RouteTypes.Yaml

/-- The kinds of values. -/
inductive Tag where
  | null
  | bool
  | int
  | float
  | text
  | timestamp
  | binary
  | sequence
  | mapping
  | set
  | orderedMapping
  | pairs
  | merge
  | value
  | unknown
  deriving DecidableEq, Repr

/-- The parts of the text of a date or timestamp. -/
structure TimestampText where
  year : Nat
  month : List Char
  day : List Char
  clock : Option (Nat × Nat × Nat × List Char × Option (Option Int))

namespace Tag

/-- The names of the kinds that have a value, behind the common start of all tags. -/
def names : List (String × Tag) :=
  [("null", .null), ("bool", .bool), ("int", .int), ("float", .float), ("str", .text),
   ("timestamp", .timestamp), ("binary", .binary), ("seq", .sequence), ("map", .mapping),
   ("set", .set), ("omap", .orderedMapping), ("pairs", .pairs), ("merge", .merge),
   ("value", .value)]

/-- The common start of all tags that have a meaning. -/
def commonStart : String := "tag:yaml.org,2002:"

/-- The kind that a tag stands for. -/
def ofName (name : List Char) : Tag :=
  let start := commonStart.toList
  if start.isPrefixOf name then
    (names.lookup (String.ofList (name.drop start.length))).getD .unknown
  else .unknown

/-- A digit or an underscore. -/
def isDigitChar (c : Char) : Bool :=
  c.isDigit || c == '_'

/-- The text without its sign. -/
def unsigned : List Char → List Char
  | '+' :: rest => rest
  | '-' :: rest => rest
  | rest => rest

/-- One digit, or two of which the first is below six. -/
def isSixtieth : List Char → Bool
  | [c] => c.isDigit
  | [c, d] => '0' ≤ c && c ≤ '5' && d.isDigit
  | _ => false

/-- A digit other than zero, with digits and underscores behind it. -/
def isNatural : List Char → Bool
  | c :: rest => c.isDigit && c != '0' && rest.all isDigitChar
  | [] => false

/-- A digit with digits and underscores behind it. -/
def isDigits : List Char → Bool
  | c :: rest => c.isDigit && rest.all isDigitChar
  | [] => false

/-- Numbers to the base of sixty: a first part and at least one further one. -/
def isSexagesimal (isFirst : List Char → Bool) (text : List Char) : Bool :=
  match Text.splitOn ':' text with
  | first :: next :: rest => isFirst first && (next :: rest).all isSixtieth
  | _ => false

/-- The form of an integer in base two, eight, ten, sixteen or sixty. -/
def isInteger (text : List Char) : Bool :=
  let text := unsigned text
  match text with
  | '0' :: 'b' :: c :: rest => (c :: rest).all fun c => c == '0' || c == '1' || c == '_'
  | '0' :: 'x' :: c :: rest =>
    (c :: rest).all fun c => (Number.digitValue? 16 c).isSome || c == '_'
  | '0' :: c :: rest => (c :: rest).all fun c => ('0' ≤ c && c ≤ '7') || c == '_'
  | ['0'] => true
  | _ => isNatural text || isSexagesimal isNatural text

/-- The form of an exponent, which has a sign and may be left out. -/
def isExponent : List Char → Bool
  | [] => true
  | e :: sign :: c :: rest =>
    (e == 'e' || e == 'E') && (sign == '+' || sign == '-') && (c :: rest).all Char.isDigit
  | _ => false

/-- The digits behind a point, with an exponent. -/
def isFraction (text : List Char) : Bool :=
  isExponent (text.dropWhile isDigitChar)

/-- Digits with a point behind them and a fraction. -/
def isDecimal (text : List Char) : Bool :=
  match Text.cut '.' text with
  | (whole, some fraction) => isDigits whole && isFraction fraction
  | _ => false

/-- A number to the base of sixty with a fraction. -/
def isSexagesimalDecimal (text : List Char) : Bool :=
  match Text.cut '.' text with
  | (whole, some fraction) => isSexagesimal isDigits whole && fraction.all isDigitChar
  | _ => false

/-- The form of a number with a fraction. -/
def isFloat (text : List Char) : Bool :=
  let positive := unsigned text
  isDecimal positive || isSexagesimalDecimal positive ||
    [".inf", ".Inf", ".INF"].any (·.toList == positive) ||
    [".nan", ".NaN", ".NAN"].any (·.toList == text) ||
    match text with
    | '.' :: c :: rest => c.isDigit && isFraction rest
    | _ => false

/-- One or two digits at the front of a text. -/
def shortNumber? : List Char → Option (List Char × List Char)
  | c :: d :: rest =>
    if !c.isDigit then none else if d.isDigit then some ([c, d], rest) else some ([c], d :: rest)
  | [c] => if c.isDigit then some ([c], []) else none
  | [] => none

/-- Two digits at the front of a text. -/
def twoDigits? : List Char → Option (Nat × List Char)
  | c :: d :: rest =>
    if c.isDigit && d.isDigit then some (Nat.ofDigitChars 10 [c, d] 0, rest) else none
  | _ => none

/-- The given character at the front of a text. -/
def expect? (mark : Char) : List Char → Option (List Char)
  | c :: rest => if c == mark then some rest else none
  | [] => none

/-- An offset from universal time that fills a text: none, zero, or minutes. -/
def zone? (text : List Char) : Option (Option (Option Int)) :=
  match text.dropWhile fun c => c == ' ' || c == '\t' with
  | [] => if text.isEmpty then some none else none
  | ['Z'] => some (some none)
  | sign :: rest => do
    if sign != '+' && sign != '-' then none
    let (hours, rest) ← shortNumber? rest
    let minutes ← match rest with
      | [] => some 0
      | rest => do
        let (minutes, rest) ← twoDigits? (← expect? ':' rest)
        if rest.isEmpty then some minutes else none
    let size := Nat.ofDigitChars 10 hours 0 * 60 + minutes
    return some (some (Binary64.signed (sign == '-') size))

/-- The time of a day that fills a text. -/
def clock? (text : List Char) :
    Option (Nat × Nat × Nat × List Char × Option (Option Int)) := do
  let (hour, rest) ← shortNumber? text
  let (minute, rest) ← twoDigits? (← expect? ':' rest)
  let (second, rest) ← twoDigits? (← expect? ':' rest)
  let (fraction, rest) := match rest with
    | '.' :: rest => (rest.takeWhile Char.isDigit, rest.dropWhile Char.isDigit)
    | rest => ([], rest)
  let zone ← zone? rest
  return (Nat.ofDigitChars 10 hour 0, minute, second, fraction, zone)

/-- The time of a day behind the mark or white space that separates it from the day. -/
def clockAfterDay? (text : List Char) :
    Option (Nat × Nat × Nat × List Char × Option (Option Int)) :=
  match text with
  | c :: rest =>
    if c == 'T' || c == 't' then clock? rest
    else if c == ' ' || c == '\t' then clock? (rest.dropWhile fun c => c == ' ' || c == '\t')
    else none
  | [] => none

/-- The parts of a date or timestamp that fills a text. -/
def timestamp? (text : List Char) : Option TimestampText := do
  let year := text.take 4
  if year.length != 4 || !year.all Char.isDigit then none
  let (month, rest) ← shortNumber? (← expect? '-' (text.drop 4))
  let (day, rest) ← shortNumber? (← expect? '-' rest)
  let year := Nat.ofDigitChars 10 year 0
  if rest.isEmpty then return ⟨year, month, day, none⟩
  return ⟨year, month, day, some (← clockAfterDay? rest)⟩

/-- The form of a timestamp, or of a date all parts of which have their full length. -/
def isTimestamp (text : List Char) : Bool :=
  match timestamp? text with
  | some parts => parts.clock.isSome || (parts.month.length == 2 && parts.day.length == 2)
  | none => false

/-- The words for truth values. -/
def isTruth (text : List Char) : Bool :=
  ["yes", "Yes", "YES", "no", "No", "NO", "true", "True", "TRUE", "false", "False", "FALSE",
   "on", "On", "ON", "off", "Off", "OFF"].any (·.toList == text)

/-- The words for the absent value. -/
def isNull (text : List Char) : Bool :=
  ["", "~", "null", "Null", "NULL"].any (·.toList == text)

/-- A text without a line end behind it. -/
def withoutLineEnd (text : List Char) : List Char :=
  if text.getLast? == some '\n' then text.dropLast else text

/-- The kind that the text of a plain scalar stands for. A line end behind it does not count,
except that it makes an empty text a string. -/
def ofText (text : List Char) : Tag :=
  let trimmed := withoutLineEnd text
  if text.isEmpty then .null
  else if isTruth trimmed then .bool
  else if isFloat trimmed then .float
  else if isInteger trimmed then .int
  else if trimmed == ['<', '<'] then .merge
  else if !trimmed.isEmpty && isNull trimmed then .null
  else if isTimestamp trimmed then .timestamp
  else if trimmed == ['='] then .value
  else if trimmed == ['!'] || trimmed == ['&'] || trimmed == ['*'] then .unknown
  else .text

/-- The kind that the text of a scalar stands for. One with halves of pairs is a string. -/
def ofPoints (points : List Point) : Tag :=
  if points.any Point.isHalf then .text else ofText (points.map Point.toChar)

end Tag

end RouteTypes.Yaml
