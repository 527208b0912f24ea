import RouteTypes.FilePath
import RouteTypes.Url

/-!
# Locations of documents

A document is found at a location: a web address or the path of a file. A location that is
written in a document is relative to the location of that document.
-/

namespace RouteTypes.Location

/-- A location that is fetched from the web. -/
def isWeb (location : String) : Bool :=
  Text.startsWith "http://" location || Text.startsWith "https://" location

/-- A location that is written as the URL of a file. -/
def isFileUrl (location : String) : Bool :=
  Text.startsWithAnyCase "file:" location

/-- The path of the file that a URL names. -/
def fileUrlPath (url : String) : Except Url.Fault String := do
  let url ← Url.ofString [] url
  return Text.percentDecode (String.ofList url.path)

/-- The path of a base, which may be written as the URL of a file. -/
def basePath (base : String) : Except Url.Fault String :=
  if isFileUrl base then fileUrlPath base else .ok base

/-- A location as seen from the document at `base`, or from the working directory where no
base is known. -/
def join (base : Option String) (location : String) : Except Url.Fault String :=
  if isWeb location then .ok location
  else if isFileUrl location then fileUrlPath location
  else if base.any isWeb then Url.join (base.getD "") location
  else if (FilePath.ofString location).isAbsolute then .ok location
  else match base with
    | none => .ok (FilePath.ofString location).toString
    | some base => do
      let path ← basePath base
      return ((FilePath.ofString path).parent.join (FilePath.ofString location)).toString

/-- The format that a location or content type hints at. -/
inductive Format where
  | json
  | yaml
  | unknown
  deriving DecidableEq, Repr

/-- The format that the suffix of a file stands for. -/
def formatOfSuffix (suffix : String) : Format :=
  let lower := suffix.toList.map Char.toLower
  if lower == ".json".toList then .json
  else if lower == ".yaml".toList || lower == ".yml".toList then .yaml
  else .unknown

/-- The name of a format, which is empty for an unknown one. -/
def Format.name : Format → String
  | .json => "json"
  | .yaml => "yaml"
  | .unknown => ""

end RouteTypes.Location
