import RouteTypes.RouteFilter
import RouteTypes.Settings.Layer

/-!
# The routes that are kept

Routes may be listed in a file as JSON. They come before the routes that are named one by one,
and the patterns come last.
-/

namespace RouteTypes

/-- Why there is no filter. -/
inductive SelectionFault where
  | unreadable (path : String) (fault : FileFault)
  | impossible (fault : FileFault)
  | undecodable (fault : Utf8.Fault)
  | json (path : String) (fault : Json.Fault)
  | number (fault : Number.Fault)
  | noTexts (path : String)
  | pattern (fault : PatternFault)

/-- What the user is told. -/
def SelectionFault.message : SelectionFault → String
  | .unreadable path fault => s!"Cannot read paths file {path}: {fault.message}"
  | .impossible fault => fault.message
  | .undecodable fault => fault.message
  | .json path fault => s!"Invalid JSON in paths file {path}: {fault.message}"
  | .number fault => fault.message
  | .noTexts path => s!"Expected JSON file with array of strings at root: {path}"
  | .pattern fault => fault.message

/-- The texts of a list that holds nothing else. Halves of pairs are replaced: no route of a
contract has them. -/
def texts? : List Value → Option (List String)
  | [] => some []
  | .scalar (.text text) :: rest => (texts? rest).map (text :: ·)
  | .scalar (.broken text) :: rest => (texts? rest).map (text.repaired :: ·)
  | _ :: _ => none

/-- The trouble of reading a file of routes. A path that no file can have is a trouble of its
own. -/
def SelectionFault.ofFile (path : String) (fault : FileFault) : SelectionFault :=
  if fault.obstacle.isReported then .unreadable path fault else .impossible fault

/-- The routes that a file lists. -/
def routesInFile (files : FileSystem) (path : String) : Except SelectionFault (List String) := do
  let bytes ← (files.read (FilePath.ofString path)).mapError (SelectionFault.ofFile path)
  let text ← (Text.ofFile bytes).mapError .undecodable
  match Json.read text with
  | .error (.number fault) => throw (.number fault)
  | .error fault => throw (.json path fault)
  | .ok (.list items) =>
    match texts? items with
    | some routes => return routes
    | none => throw (.noTexts path)
  | .ok _ => throw (.noTexts path)

/-- The rules for the routes that the settings keep. -/
def Settings.rules (settings : Settings) (files : FileSystem) :
    Except SelectionFault (List Rule) := do
  let listed ← match filled? settings.routesFile with
    | some path => routesInFile files path
    | none => pure []
  (Rule.ofTexts (listed ++ settings.routes) settings.patterns).mapError .pattern

end RouteTypes
