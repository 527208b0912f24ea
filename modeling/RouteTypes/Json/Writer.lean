import RouteTypes.Number.Reading
import RouteTypes.Value

/-!
# Writing JSON

A value is written in one line, or with every item on a line of its own. Numbers, truth values and
the absent value become text where they are keys. Dates, timestamps, bytes and sets have no JSON
form, and neither have keys that are dates, timestamps or bytes. A half of a pair has a JSON form,
but this form cannot be encoded: where a text or key has one, it is looked for when the whole text
is there, in which halves are spelled as escapes until then.
-/

namespace RouteTypes.Json

/-- Why a value has no JSON form. -/
inductive Unwritable where
  | value (kind : String)
  | key (kind : String)
  | tooLong
  | half (fault : Utf8.HalfFault)
  deriving DecidableEq, Repr

/-- What the writer of a value is told. -/
def Unwritable.message : Unwritable → String
  | .value kind => s!"Object of type {kind} is not JSON serializable"
  | .key kind => s!"keys must be str, int, float, bool or None, not {kind}"
  | .tooLong => Number.unshowable
  | .half fault => fault.message

/-- How the items of a list or mapping are laid out. -/
inductive Layout where
  | line
  | indented (width : Nat)
  deriving DecidableEq, Repr

/-- The layout for a requested indentation; one below zero counts as zero. -/
def Layout.ofIndent : Option Int → Layout
  | none => .line
  | some width => .indented width.toNat

/-- The text of a character of a string. -/
def charText (c : Char) : List Char :=
  if c == '"' then ['\\', '"']
  else if c == '\\' then ['\\', '\\']
  else if c == '\n' then ['\\', 'n']
  else if c == '\r' then ['\\', 'r']
  else if c == '\t' then ['\\', 't']
  else if c == '\x08' then ['\\', 'b']
  else if c == '\x0c' then ['\\', 'f']
  else if c.toNat < 32 then
    ['\\', 'u', '0', '0', Utf8.hexDigit (c.toNat / 16), Utf8.hexDigit (c.toNat % 16)]
  else [c]

/-- A string with its quotes. -/
def stringText (text : String) : String :=
  String.ofList ('"' :: text.toList.flatMap charText ++ ['"'])

/-- The escape of a half of a pair. -/
def halfText (offset : Fin 2048) : List Char :=
  let code := Point.firstHalf + offset.val
  ['\\', 'u', Utf8.hexDigit (code / 4096), Utf8.hexDigit (code / 256 % 16),
    Utf8.hexDigit (code / 16 % 16), Utf8.hexDigit (code % 16)]

/-- The text of a part of a string. -/
def pointText : Point → List Char
  | .char c => charText c
  | .half offset => halfText offset

/-- A string with halves of pairs, with its quotes. -/
def brokenText (broken : BrokenText) : String :=
  String.ofList ('"' :: broken.points.flatMap pointText ++ ['"'])

/-- An integer of a length that can be converted. -/
def integerText (value : Int) : Except Unwritable String :=
  if Nat.pow 10 Number.maxDigits ≤ value.natAbs then .error .tooLong else .ok (toString value)

/-- A number with a fraction or exponent, or one of the names for what is no number. -/
def floatText : Binary64 → String
  | .infinite false => "Infinity"
  | .infinite true => "-Infinity"
  | .indeterminate => "NaN"
  | value => value.shortestText

/-- The text of a scalar that has one. -/
def scalarText : Scalar → Except Unwritable String
  | .null => .ok "null"
  | .bool true => .ok "true"
  | .bool false => .ok "false"
  | .int value => integerText value
  | .float value => .ok (floatText value)
  | .text value => .ok (stringText value)
  | .broken value => .ok (brokenText value)
  | value => .error (.value value.kindName)

/-- The string that a key becomes, with its quotes. -/
def keyText : Scalar → Except Unwritable String
  | .text name => .ok (stringText name)
  | .broken name => .ok (brokenText name)
  | .null => .ok (stringText "null")
  | .bool true => .ok (stringText "true")
  | .bool false => .ok (stringText "false")
  | .int value => stringText <$> integerText value
  | .float value => .ok (stringText (floatText value))
  | value => .error (.key value.kindName)

/-- The line break and indentation before an item at a depth. -/
def lineBreak (layout : Layout) (depth : Nat) : String :=
  match layout with
  | .line => ""
  | .indented width => "\n" ++ String.ofList (List.replicate (width * depth) ' ')

/-- What stands between two items at a depth. -/
def separator (layout : Layout) (depth : Nat) : String :=
  match layout with
  | .line => ", "
  | .indented _ => "," ++ lineBreak layout depth

/-- Items at a depth between an opening and a closing mark. -/
def enclosed (layout : Layout) (depth : Nat) (opening closing : String)
    (items : List String) : String :=
  if items.isEmpty then opening ++ closing
  else
    opening ++ lineBreak layout (depth + 1) ++
      (separator layout (depth + 1)).intercalate items ++ lineBreak layout depth ++ closing

mutual

/-- The JSON text of a value that stands at a depth. -/
def writeAt (layout : Layout) (depth : Nat) : Value → Except Unwritable String
  | .scalar value => scalarText value
  | .list items => do
    return enclosed layout depth "[" "]" (← writeItems layout (depth + 1) items)
  | .tuple items => do
    return enclosed layout depth "[" "]" (← writeItems layout (depth + 1) items)
  | .set _ => .error (.value "set")
  | .mapping entries => do
    return enclosed layout depth "\x7b" "\x7d" (← writeEntries layout (depth + 1) entries)

/-- The JSON texts of the items of a list. -/
def writeItems (layout : Layout) (depth : Nat) : List Value → Except Unwritable (List String)
  | [] => .ok []
  | item :: rest => do
    let text ← writeAt layout depth item
    return text :: (← writeItems layout depth rest)

/-- The JSON texts of the entries of a mapping. -/
def writeEntries (layout : Layout) (depth : Nat) :
    List (Scalar × Value) → Except Unwritable (List String)
  | [] => .ok []
  | (key, value) :: rest => do
    let name ← keyText key
    let text ← writeAt layout depth value
    return (name ++ ": " ++ text) :: (← writeEntries layout depth rest)

end

/-- The number of halves of pairs at the front of a written text. -/
def countHalves : List Char → Nat
  | '\\' :: 'u' :: 'd' :: _ :: _ :: _ :: rest => countHalves rest + 1
  | _ => 0

/-- The half of a pair whose number ends in three digits. -/
def halfOf (a b c : Char) : Fin 2048 :=
  let digit (c : Char) := (Number.digitValue? 16 c).getD 0
  Fin.ofNat 2048 ((digit a * 16 + digit b) * 16 + digit c)

/-- The first halves of pairs in a written text, behind so many of its parts. Of all escapes only
those of halves start with the letter d. -/
def findHalves (position : Nat) : List Char → Option Utf8.HalfFault
  | '\\' :: 'u' :: 'd' :: a :: b :: c :: rest =>
    some ⟨position, halfOf a b c, countHalves rest⟩
  | '\\' :: _ :: rest => findHalves (position + 2) rest
  | _ :: rest => findHalves (position + 1) rest
  | [] => none

/-- The JSON text of a value that can be encoded. The text is searched only for what is there. -/
def write (layout : Layout) (value : Value) : Except Unwritable String := do
  let text ← writeAt layout 0 value
  if value.isWhole then return text
  match findHalves 0 text.toList with
  | some fault => throw (.half fault)
  | none => return text

end RouteTypes.Json
