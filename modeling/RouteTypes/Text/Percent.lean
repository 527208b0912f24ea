import RouteTypes.Number.Reading
import RouteTypes.Text.Utf8

/-!
# Percent encoding

In addresses and pointers a byte may be written as a percent sign with two hexadecimal digits.
Decoding turns every run of ASCII characters into bytes and reads these as UTF-8, with a
replacement for what is none; a percent sign without two digits stands for itself.
-/

namespace RouteTypes.Text

/-- The byte that two hexadecimal digits stand for. -/
def hexPair? (high low : Char) : Option UInt8 := do
  let high ← Number.digitValue? 16 high
  let low ← Number.digitValue? 16 low
  return UInt8.ofNat (high * 16 + low)

/-- Decodes a text after the bytes of the current run, which are kept in reverse. -/
def percentDecodeAfter (run : Bytes) : List Char → List Char
  | [] => Utf8.decodeLossy run.reverse
  | '%' :: high :: low :: rest =>
    match hexPair? high low with
    | some byte => percentDecodeAfter (byte :: run) rest
    | none => percentDecodeAfter (37 :: run) (high :: low :: rest)
  | c :: rest =>
    if c.toNat < 128 then percentDecodeAfter (UInt8.ofNat c.toNat :: run) rest
    else Utf8.decodeLossy run.reverse ++ c :: percentDecodeAfter [] rest

/-- The text that a percent-encoded text stands for. -/
def percentDecode (text : String) : String :=
  String.ofList (percentDecodeAfter [] text.toList)

/-- A hexadecimal digit in upper case. -/
def upperHexDigit (value : Nat) : Char :=
  if value < 10 then Char.ofNat (48 + value) else Char.ofNat (55 + value)

/-- The percent-encoded form of a byte. -/
def percentByte (byte : UInt8) : List Char :=
  ['%', upperHexDigit (byte.toNat / 16), upperHexDigit (byte.toNat % 16)]

/-- Encodes the characters that are not to be kept as they are. -/
def percentEncode (kept : Char → Bool) (text : List Char) : List Char :=
  text.flatMap fun c =>
    if kept c then [c] else (String.utf8EncodeChar c).flatMap percentByte

end RouteTypes.Text
