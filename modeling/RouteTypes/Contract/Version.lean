import RouteTypes.Text.Digit
import RouteTypes.Text.Split
import RouteTypes.Value

/-!
# The version gate

A contract document names the version of the standard that it follows. Only versions whose
major number is three are supported; documents of the older standard name theirs under a key
of its own and are told how to proceed.
-/

namespace RouteTypes.Contract

/-- Why the version of a document is not supported: it follows the older standard, or names no
version that is supported. What is named instead cannot be told where an integer in it is too
long. -/
inductive VersionFault where
  | older (version : String)
  | unsupported (version : Option String)
  | untold
  deriving DecidableEq, Repr

/-- The version that a document names instead of a supported one. -/
def VersionFault.version : VersionFault → Option String
  | .older version => some version
  | .unsupported version => version
  | .untold => none

/-- What the reader of a document is told. -/
def VersionFault.message : VersionFault → String
  | .older version =>
    s!"Swagger {version} is not supported. Only OpenAPI 3.x.x documents are supported. " ++
      "Consider converting with https://converter.swagger.io"
  | .unsupported version =>
    "Supports OpenAPI 3.x.x documents but found " ++ version.getD "None"
  | .untold => Number.unshowable

/-- A sequence of decimal digits. -/
def isNumber (text : List Char) : Bool :=
  !text.isEmpty && text.all Text.isDecimal

/-- Three numbers with dots between them, the first of which is three. -/
def isSupported (version : String) : Bool :=
  match Text.splitOn '.' version.toList with
  | [major, minor, patch] => major == ['3'] && isNumber minor && isNumber patch
  | _ => false

/-- The refusal of what a document names instead of a supported version. -/
def refusal (fault : String → VersionFault) (named : Value) : VersionFault :=
  if named.isShowable then fault named.display else .untold

/-- The supported version that a document names. -/
def version (document : Value) : Except VersionFault String :=
  match document.field? "swagger" with
  | some older => .error (refusal .older older)
  | none =>
    match document.field? "openapi" with
    | none => .error (.unsupported none)
    | some (.scalar .null) => .error (.unsupported none)
    | some (.scalar (.text version)) =>
      if isSupported version then .ok version else .error (.unsupported (some version))
    | some other => .error (refusal (fun shown => .unsupported (some shown)) other)

end RouteTypes.Contract
