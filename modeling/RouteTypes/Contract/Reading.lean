import RouteTypes.Json.Reader
import RouteTypes.Location
import RouteTypes.Yaml.Reader

/-!
# Reading contract documents

A contract document is a text in one of two formats. A hint may say which; without one, the
stricter format is tried first. Either way a document is a mapping.
-/

namespace RouteTypes.Contract

/-- Why a text is no contract document. The last two causes are scalars that have no value. -/
inductive ReadFault where
  | json (fault : Json.Fault)
  | neither (json : Option Json.Fault)
  | noMapping (kind : String)
  | number (fault : Number.Fault)
  | scalar (fault : Yaml.Fault)
  deriving DecidableEq, Repr

/-- What the reader of a document is told. -/
def ReadFault.message : ReadFault → String
  | .json fault => "Invalid JSON: " ++ fault.message
  | .neither found =>
    "Failed to parse contract as JSON or YAML" ++
      (match found with
        | some fault => "\n  JSON error: " ++ fault.message
        | none => "") ++
      "\n  YAML error: " ++ Yaml.Fault.malformed.message
  | .noMapping kind => s!"Contract must be a JSON/YAML object (got {kind})"
  | .number fault => fault.message
  | .scalar fault => fault.message

/-- Requires that a document is a mapping. -/
def mapping (document : Value) (kind : String) : Except ReadFault Value :=
  match document with
  | .mapping entries => .ok (.mapping entries)
  | _ => .error (.noMapping kind)

/-- Reads a document as YAML, after the given failure to read it as JSON. -/
def readYaml (json : Option Json.Fault) (text : String) : Except ReadFault Value :=
  match Yaml.read text with
  | .ok .null => .error (.noMapping "empty document")
  | .ok document => mapping document document.kindName
  | .error .malformed => .error (.neither json)
  | .error fault => .error (.scalar fault)

/-- Reads a document. -/
def read (hint : Location.Format) (text : String) : Except ReadFault Value :=
  match hint with
  | .yaml => readYaml none text
  | hint =>
    match Json.read text with
    | .ok document => mapping document document.kindName
    | .error (.number fault) => .error (.number fault)
    | .error fault => if hint = .json then .error (.json fault) else readYaml (some fault) text

end RouteTypes.Contract
