/-!
# Bytes and characters

Files, standard input and the output of child processes are bytes; everything else is text.
This module writes text as UTF-8 and reads it back. Reading is exact about *where* and *why*
a sequence of bytes is no UTF-8: a fault names the bytes that belong to the ill-formed
character, which is the longest prefix of a well-formed character found there.
-/

namespace RouteTypes

/-- A sequence of octets, as stored in a file or sent through a pipe. -/
abbrev Bytes := List UInt8

namespace Utf8

/-- The UTF-8 form of a text. -/
def encode (text : List Char) : Bytes :=
  text.flatMap String.utf8EncodeChar

/-- The UTF-8 form of a string. -/
def encodeString (text : String) : Bytes :=
  encode text.toList

/-- Why some bytes form no character. -/
inductive Reason where
  | start
  | continuation
  | truncated
  deriving DecidableEq, Repr

/-- The first ill-formed character: its bytes stand at `first`, …, `first + bytes.length - 1`. -/
structure Fault where
  first : Nat
  bytes : Bytes
  reason : Reason
  deriving DecidableEq, Repr

/-- One step of reading: a character and what follows it, or an ill-formed prefix. -/
inductive Step where
  | done
  | char (value : Char) (rest : Bytes)
  | ill (reason : Reason) (bytes : Bytes) (rest : Bytes)
  deriving Repr

/-- A byte that continues a character. -/
def isContinuation (byte : UInt8) : Bool :=
  0x80 ≤ byte && byte < 0xC0

/-- The six payload bits of a continuation byte. -/
def payload (byte : UInt8) : Nat :=
  byte.toNat % 64

/-- The second byte is restricted after some first bytes, which rules out overlong forms,
surrogates and values beyond the last code point. -/
def secondAllowed (lead second : UInt8) : Bool :=
  isContinuation second &&
    (lead != 0xE0 || 0xA0 ≤ second) &&
    (lead != 0xED || second < 0xA0) &&
    (lead != 0xF0 || 0x90 ≤ second) &&
    (lead != 0xF4 || second < 0x90)

/-- Reads a character of three bytes after its first. -/
def stepThree (lead : UInt8) : Bytes → Step
  | [] => .ill .truncated [lead] []
  | second :: rest =>
    if !secondAllowed lead second then .ill .continuation [lead] (second :: rest)
    else match rest with
      | [] => .ill .truncated [lead, second] []
      | third :: rest =>
        if isContinuation third then
          .char (Char.ofNat ((lead.toNat % 16 * 64 + payload second) * 64 + payload third)) rest
        else .ill .continuation [lead, second] (third :: rest)

/-- Reads a character of four bytes after its first. -/
def stepFour (lead : UInt8) : Bytes → Step
  | [] => .ill .truncated [lead] []
  | second :: rest =>
    if !secondAllowed lead second then .ill .continuation [lead] (second :: rest)
    else match rest with
      | [] => .ill .truncated [lead, second] []
      | third :: rest =>
        if !isContinuation third then .ill .continuation [lead, second] (third :: rest)
        else match rest with
          | [] => .ill .truncated [lead, second, third] []
          | fourth :: rest =>
            if isContinuation fourth then
              .char (Char.ofNat
                (((lead.toNat % 8 * 64 + payload second) * 64 + payload third) * 64
                  + payload fourth)) rest
            else .ill .continuation [lead, second, third] (fourth :: rest)

/-- Reads the first character of a sequence of bytes. -/
def step : Bytes → Step
  | [] => .done
  | lead :: rest =>
    if lead < 0x80 then .char (Char.ofNat lead.toNat) rest
    else if lead < 0xC2 then .ill .start [lead] rest
    else if lead < 0xE0 then
      match rest with
      | [] => .ill .truncated [lead] []
      | second :: rest =>
        if isContinuation second then
          .char (Char.ofNat (lead.toNat % 32 * 64 + payload second)) rest
        else .ill .continuation [lead] (second :: rest)
    else if lead < 0xF0 then stepThree lead rest
    else if lead < 0xF5 then stepFour lead rest
    else .ill .start [lead] rest

/-- Reads characters until `fuel` is used up; every step takes at least one byte. -/
def decodeFrom (position : Nat) : Nat → Bytes → Except Fault (List Char)
  | 0, _ => .ok []
  | fuel + 1, bytes =>
    match step bytes with
    | .done => .ok []
    | .char value rest => do
      let tail ← decodeFrom (position + (bytes.length - rest.length)) fuel rest
      return value :: tail
    | .ill reason ill _ => .error ⟨position, ill, reason⟩

/-- The text that the bytes encode, or the first place where they encode none. -/
def decode (bytes : Bytes) : Except Fault (List Char) :=
  decodeFrom 0 bytes.length bytes

/-- The replacement character, which stands for one ill-formed character. -/
def replacement : Char := '\uFFFD'

/-- Reads characters with a replacement for every ill-formed one. -/
def decodeLossyFrom : Nat → Bytes → List Char
  | 0, _ => []
  | fuel + 1, bytes =>
    match step bytes with
    | .done => []
    | .char value rest => value :: decodeLossyFrom fuel rest
    | .ill _ _ rest => replacement :: decodeLossyFrom fuel rest

/-- The text that the bytes encode, where each ill-formed character becomes U+FFFD. -/
def decodeLossy (bytes : Bytes) : List Char :=
  decodeLossyFrom bytes.length bytes

/-- What a reader is told about the reason. -/
def Reason.message : Reason → String
  | .start => "invalid start byte"
  | .continuation => "invalid continuation byte"
  | .truncated => "unexpected end of data"

/-- A digit of a hexadecimal number in lower case. -/
def hexDigit (value : Nat) : Char :=
  if value < 10 then Char.ofNat (48 + value) else Char.ofNat (87 + value)

/-- A byte as two hexadecimal digits. -/
def hexByte (byte : UInt8) : String :=
  String.ofList [hexDigit (byte.toNat / 16), hexDigit (byte.toNat % 16)]

/-- A fault of one byte shows the byte, one of several bytes shows their positions. -/
def Fault.message (fault : Fault) : String :=
  match fault.bytes with
  | [byte] =>
    s!"'utf-8' codec can't decode byte 0x{hexByte byte} in position {fault.first}: " ++
      fault.reason.message
  | bytes =>
    let last := fault.first + bytes.length - 1
    s!"'utf-8' codec can't decode bytes in position {fault.first}-{last}: " ++
      fault.reason.message

end Utf8

end RouteTypes
