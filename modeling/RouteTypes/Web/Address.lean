import RouteTypes.Number.Reading
import RouteTypes.Url

/-!
# Addresses that can be requested

Before a page is requested, its address is taken apart. Nothing is requested at an address that is
too long, that holds a control character, or whose host or port cannot be. Names of hosts that are
not written in ASCII are taken as they are.
-/

namespace RouteTypes

/-- Why nothing can be requested at an address. -/
inductive AddressFault where
  | tooLong
  | control (c : Char) (position : Nat)
  | oldAddress (host : List Char)
  | newAddress (host : List Char)
  | port (text : List Char)
  deriving DecidableEq, Repr

namespace AddressFault

/-- What the reader of an address is told. -/
def message : AddressFault → String
  | .tooLong => "URL too long"
  | .control c position =>
    s!"Invalid non-printable ASCII character in URL, {Text.quoted c.toString} at position " ++
      s!"{position}."
  | .oldAddress host => "Invalid IPv4 address: " ++ Text.quoted (String.ofList host)
  | .newAddress host => "Invalid IPv6 address: " ++ Text.quoted (String.ofList host)
  | .port text => "Invalid port: " ++ Text.quoted (String.ofList text)

end AddressFault

namespace Address

/-- The most characters that an address may have. -/
def maxLength : Nat := 65536

/-- A control character of ASCII. -/
def isControl (c : Char) : Bool :=
  c.toNat < 32 || c.toNat == 127

/-- What stands behind the last occurrence of a character. -/
def afterLast (mark : Char) (text : List Char) : List Char :=
  (text.reverse.takeWhile (· != mark)).reverse

/-- The host of an authority without the name of a user, and the port behind it. -/
def splitPort (text : List Char) : List Char × List Char :=
  let isBracketed := text.head? == some '[' && text.contains ']'
  let port := if isBracketed then afterLast ']' text else text.dropWhile (· != ':')
  (text.take (text.length - port.length),
    match port with
    | ':' :: digits => digits
    | digits => digits)

/-- A host that is written as four numbers. -/
def isNumeric (host : List Char) : Bool :=
  let parts := Text.splitOn '.' host
  parts.length == 4 && parts.all fun part => !part.isEmpty && part.all Char.isDigit

/-- Checks a host. -/
def checkHost (host : List Char) : Except AddressFault Unit :=
  if isNumeric host && !Url.isOldAddress host then .error (.oldAddress host)
  else if host.head? == some '[' && host.getLast? == some ']' then
    if Url.isAddress (host.drop 1).dropLast then .ok () else .error (.newAddress host)
  else .ok ()

/-- Checks a port. -/
def checkPort (port : List Char) : Except AddressFault Unit :=
  if port.isEmpty || (Number.readInteger 10 (String.ofList port)).isOk then .ok ()
  else .error (.port port)

/-- Checks that something can be requested at an address. -/
def check (address : String) : Except AddressFault Unit := do
  let text := address.toList
  if maxLength < text.length then throw .tooLong
  if let some c := text.find? isControl then throw (.control c (text.idxOf c))
  let authority := (Url.splitAuthority (Url.splitScheme text).2).1
  let (host, port) := splitPort (afterLast '@' authority)
  checkHost host
  checkPort port

end Address

end RouteTypes
