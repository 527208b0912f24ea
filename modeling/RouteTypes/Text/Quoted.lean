import RouteTypes.Text.Printable
import RouteTypes.Text.Utf8

/-!
# Quoted text

Messages show a text between quotes in a form that makes every character visible: controls and
unprintable characters are escaped, and the quote is chosen so that it needs no escape where
that is possible. Bytes are shown likewise, with every byte that is not printable ASCII
escaped.
-/

namespace RouteTypes.Text

/-- A number in lower-case hexadecimal digits, of the given width. -/
def hexText (width value : Nat) : String :=
  let digits := (Nat.toDigits 16 value)
  String.ofList (List.replicate (width - digits.length) '0' ++ digits)

/-- The quote for a text: the single one, unless the text holds it and no double one. -/
def quoteFor (text : List Char) : Char :=
  if text.contains '\'' && !text.contains '"' then '"' else '\''

/-- A character between quotes of the given kind. -/
def quotedChar (quote c : Char) : String :=
  if c == quote || c == '\\' then String.ofList ['\\', c]
  else if c == '\n' then "\\n"
  else if c == '\r' then "\\r"
  else if c == '\t' then "\\t"
  else if isPrintable c then c.toString
  else if c.toNat < 256 then "\\x" ++ hexText 2 c.toNat
  else if c.toNat < 65536 then "\\u" ++ hexText 4 c.toNat
  else "\\U" ++ hexText 8 c.toNat

/-- A text between quotes. -/
def quoted (text : String) : String :=
  let quote := quoteFor text.toList
  quote.toString ++ String.join (text.toList.map (quotedChar quote)) ++ quote.toString

/-- A byte between quotes of the given kind. -/
def quotedByte (quote : Char) (byte : UInt8) : String :=
  let c := Char.ofNat byte.toNat
  if c == quote || c == '\\' then String.ofList ['\\', c]
  else if c == '\n' then "\\n"
  else if c == '\r' then "\\r"
  else if c == '\t' then "\\t"
  else if 32 ≤ byte && byte < 127 then c.toString
  else "\\x" ++ Utf8.hexByte byte

/-- Bytes between quotes, marked as bytes. -/
def quotedBytes (bytes : Bytes) : String :=
  let quote := quoteFor (bytes.map fun byte => Char.ofNat byte.toNat)
  "b" ++ quote.toString ++ String.join (bytes.map (quotedByte quote)) ++ quote.toString

end RouteTypes.Text
