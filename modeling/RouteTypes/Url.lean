import RouteTypes.Text.Percent
import RouteTypes.Text.Quoted
import RouteTypes.Text.Split

/-!
# Addresses

A URL is split into scheme, authority, path, parameters, query and fragment, and a relative one
is resolved against a base by the rules of RFC 3986, with two differences: parameters belong to
the last segment of the path, and empty segments inside of a merged path are dropped.
-/

namespace RouteTypes

/-- The parts of a URL. -/
structure Url where
  scheme : List Char
  authority : List Char
  path : List Char
  parameters : List Char
  query : List Char
  fragment : List Char
  deriving DecidableEq, Repr

namespace Url

/-- Why a text is no URL: something is wrong with a host in brackets, or a character of the
authority is equivalent to a mark of URLs. -/
inductive Fault where
  | unbalanced
  | futureAddress
  | oldAddress
  | noAddress (host : String)
  | disguised (authority : String)
  deriving DecidableEq, Repr

/-- What the reader of a URL is told. -/
def Fault.message : Fault → String
  | .unbalanced => "Invalid IPv6 URL"
  | .futureAddress => "IPvFuture address is invalid"
  | .oldAddress => "An IPv4 address cannot be in brackets"
  | .noAddress host => Text.quoted host ++ " does not appear to be an IPv4 or IPv6 address"
  | .disguised authority =>
    s!"netloc '{authority}' contains invalid characters under NFKC normalization"

/-- A decimal number below 256 without leading zeros. -/
def isOctet (text : List Char) : Bool :=
  !text.isEmpty && text.all Char.isDigit && text.length ≤ 3 &&
    (text.length == 1 || text.head? != some '0') && Nat.ofDigitChars 10 text 0 < 256

/-- Four octets with dots between them. -/
def isOldAddress (text : List Char) : Bool :=
  let parts := Text.splitOn '.' text
  parts.length == 4 && parts.all isOctet

/-- A group of up to four hexadecimal digits. -/
def isGroup (text : List Char) : Bool :=
  !text.isEmpty && text.length ≤ 4 && text.all fun c => (Number.digitValue? 16 c).isSome

/-- The groups of an address, the last of which may be four octets that count as two. -/
def addressGroups? (parts : List (List Char)) : Option (List (List Char)) :=
  match parts.getLast? with
  | none => none
  | some last =>
    if last.contains '.' then
      if isOldAddress last then some (parts.dropLast ++ [['0'], ['0']]) else none
    else some parts

/-- Eight groups, where one run of zero groups may be left out between two colons. -/
def isAddress (text : List Char) : Bool :=
  let (address, scope) := Text.cut '%' text
  let scopeIsValid := match scope with
    | none => true
    | some scope => !scope.isEmpty && !scope.contains '%'
  let parts := Text.splitOn ':' address
  scopeIsValid && 3 ≤ parts.length &&
    match addressGroups? parts with
    | none => false
    | some groups =>
      let inner := (groups.drop 1).dropLast
      if inner.any List.isEmpty then
        let gaps := (inner.filter List.isEmpty).length
        let front := groups.takeWhile (!·.isEmpty)
        let back := (groups.reverse.takeWhile (!·.isEmpty)).reverse
        let opens := groups.head? != some [] || (groups.drop 1).head? == some []
        let closes := groups.getLast? != some [] || groups.dropLast.getLast? == some []
        gaps == 1 && opens && closes && front.length + back.length ≤ 7 &&
          front.all isGroup && back.all isGroup
      else groups.length == 8 && groups.all isGroup

/-- An address of a kind that is still to come: a version, a dot and some text. -/
def isFutureAddress (text : List Char) : Bool :=
  match text with
  | 'v' :: rest =>
    match Text.cut '.' rest with
    | (version, some (_ :: _)) =>
      !version.isEmpty && version.all fun c => (Number.digitValue? 16 c).isSome
    | _ => false
  | _ => false

/-- Checks the brackets of an authority and the address between them. -/
def checkBrackets (authority : List Char) : Except Fault Unit :=
  if authority.contains '[' != authority.contains ']' then .error .unbalanced
  else if authority.contains '[' then
    let host := (Text.cut ']' ((Text.cut '[' authority).2.getD [])).1
    if host.head? == some 'v' then
      if isFutureAddress host then .ok () else .error .futureAddress
    else if isOldAddress host then .error .oldAddress
    else if isAddress host then .ok ()
    else .error (.noAddress (String.ofList host))
  else .ok ()

/-- The characters other than those of ASCII whose compatibility form holds one of the marks of
URLs, such as the account sign, which stands for `a/c`. -/
def disguises : List Nat :=
  [0x2047, 0x2048, 0x2049, 0x2100, 0x2101, 0x2105, 0x2106, 0x2A74, 0xFE13, 0xFE16, 0xFE55,
   0xFE56, 0xFE5F, 0xFE6B, 0xFF03, 0xFF0F, 0xFF1A, 0xFF1F, 0xFF20]

/-- Checks that no character of an authority is equivalent to a mark of URLs. -/
def checkDisguises (authority : List Char) : Except Fault Unit :=
  if authority.any fun c => disguises.contains c.toNat then
    .error (.disguised (String.ofList authority))
  else .ok ()

/-- A character of a scheme. -/
def isSchemeChar (c : Char) : Bool :=
  c.isAlphanum || c == '+' || c == '-' || c == '.'

/-- Separates the scheme, in lower case, from a URL that has one. -/
def splitScheme (text : List Char) : Option (List Char) × List Char :=
  match text, Text.cut ':' text with
  | first :: _, (scheme, some rest) =>
    if first.isAlpha && scheme.all isSchemeChar then (some (scheme.map Char.toLower), rest)
    else (none, text)
  | _, _ => (none, text)

/-- Separates the authority from a URL without its scheme. -/
def splitAuthority (text : List Char) : List Char × List Char :=
  match text with
  | '/' :: '/' :: rest =>
    let isInside := fun c => c != '/' && c != '?' && c != '#'
    (rest.takeWhile isInside, rest.dropWhile isInside)
  | _ => ([], text)

/-- Schemes whose paths have parameters. -/
def hasParameters (scheme : List Char) : Bool :=
  ["", "ftp", "hdl", "prospero", "http", "imap", "https", "shttp", "rtsp", "rtsps", "rtspu",
   "sip", "sips", "mms", "sftp", "tel"].any (·.toList == scheme)

/-- Separates the parameters of the last segment of a path. -/
def splitParameters (path : List Char) : List Char × List Char :=
  let segments := Text.splitOn '/' path
  match Text.cut ';' (segments.getLastD []) with
  | (last, some parameters) =>
    (Text.joinWith '/' (segments.dropLast ++ [last]), parameters)
  | (_, none) => (path, [])

/-- Characters that are dropped at the front of a URL. -/
def isLeading (c : Char) : Bool :=
  c.toNat ≤ 32

/-- Characters that are dropped everywhere in a URL. -/
def isDropped (c : Char) : Bool :=
  c == '\t' || c == '\r' || c == '\n'

/-- Splits a URL; one without a scheme gets the given one. -/
def ofString (defaultScheme : List Char) (text : String) : Except Fault Url := do
  let text := (text.toList.dropWhile isLeading).filter (!isDropped ·)
  let (found, rest) := splitScheme text
  let scheme := found.getD defaultScheme
  let (authority, rest) := splitAuthority rest
  checkBrackets authority
  checkDisguises authority
  let (rest, fragment) := Text.cut '#' rest
  let (path, query) := Text.cut '?' rest
  let (path, parameters) := if hasParameters scheme then splitParameters path else (path, [])
  return ⟨scheme, authority, path, parameters, query.getD [], fragment.getD []⟩

/-- A part with a mark in front of it, unless it is empty. -/
def marked (mark : Char) (part : List Char) : List Char :=
  if part.isEmpty then [] else mark :: part

/-- Puts the parts of a URL of a web page together. -/
def toString (url : Url) : String :=
  let path := url.path ++ marked ';' url.parameters
  let path := match path with
    | [] => []
    | '/' :: _ => path
    | _ => '/' :: path
  String.ofList (url.scheme ++ "://".toList ++ url.authority ++ path ++
    marked '?' url.query ++ marked '#' url.fragment)

/-- Follows the segments of a path: a double dot takes back the segment before it, a single dot
does nothing. The segments so far are kept in reverse. -/
def followSegments (taken : List (List Char)) : List (List Char) → List (List Char)
  | [] => taken.reverse
  | segment :: rest =>
    if segment == ['.', '.'] then followSegments (taken.drop 1) rest
    else if segment == ['.'] then followSegments taken rest
    else followSegments (segment :: taken) rest

/-- Drops empty segments other than the first and the last. -/
def dropInnerEmpty (segments : List (List Char)) : List (List Char) :=
  match segments with
  | [] => []
  | [only] => [only]
  | first :: rest => first :: rest.dropLast.filter (!·.isEmpty) ++ [rest.getLastD []]

/-- The path of a reference as seen from the path of its base. -/
def mergePaths (base path : List Char) : List Char :=
  let segments :=
    if path.head? == some '/' then Text.splitOn '/' path
    else
      let baseSegments := Text.splitOn '/' base
      let directory :=
        if baseSegments.getLast? == some [] then baseSegments else baseSegments.dropLast
      dropInnerEmpty (directory ++ Text.splitOn '/' path)
  let last := segments.getLastD []
  let followed := followSegments [] segments ++
    (if last == ['.'] || last == ['.', '.'] then [[]] else [])
  match Text.joinWith '/' followed with
  | [] => ['/']
  | merged => merged

/-- The address that a reference means inside of the page with the given address. -/
def join (base reference : String) : Except Fault String := do
  if reference == "" then return base
  let page ← ofString [] base
  let url ← ofString page.scheme reference
  if url.scheme != page.scheme then return reference
  if !url.authority.isEmpty then return url.toString
  if url.path.isEmpty && url.parameters.isEmpty then
    let query := if url.query.isEmpty then page.query else url.query
    return toString { page with query := query, fragment := url.fragment }
  return toString { url with
    authority := page.authority, path := mergePaths page.path url.path }

end Url

end RouteTypes
