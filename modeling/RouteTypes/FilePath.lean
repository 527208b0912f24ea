import RouteTypes.Text.Split

/-!
# File paths

A path is a root, which is absent for relative paths, and a list of names. Empty names and
single dots are dropped when a path is read; double dots are kept, because only the file
system can tell where they lead.
-/

namespace RouteTypes

/-- A path: its root and its names. -/
structure FilePath where
  root : String
  names : List String
  deriving DecidableEq, Repr

namespace FilePath

/-- The root at the front of a path: exactly two slashes are a root of their own, any other
number is the usual one. -/
def rootOf : List Char → String
  | '/' :: '/' :: '/' :: _ => "/"
  | '/' :: '/' :: _ => "//"
  | '/' :: _ => "/"
  | _ => ""

/-- A part of a path that names something. -/
def isName (part : String) : Bool :=
  part != "" && part != "."

/-- Reads a path. -/
def ofString (text : String) : FilePath :=
  ⟨rootOf text.toList, (Text.splitString '/' text).filter isName⟩

/-- The path as text; the empty path is a dot. -/
def toString (path : FilePath) : String :=
  if path.root == "" && path.names.isEmpty then "."
  else path.root ++ "/".intercalate path.names

/-- A path with a root. -/
def isAbsolute (path : FilePath) : Bool :=
  path.root != ""

/-- The path without its last name. -/
def parent (path : FilePath) : FilePath :=
  ⟨path.root, path.names.dropLast⟩

/-- The second path as seen from the first, which it replaces when it is absolute. -/
def join (base path : FilePath) : FilePath :=
  if path.isAbsolute then path else ⟨base.root, base.names ++ path.names⟩

/-- The last name. -/
def name (path : FilePath) : String :=
  path.names.getLastD ""

/-- The part of the last name from its last dot on, unless the dot is its first or last
character. -/
def suffix (path : FilePath) : String :=
  let reversed := path.name.toList.reverse
  let ending := reversed.takeWhile (· != '.')
  let before := (reversed.dropWhile (· != '.')).drop 1
  if ending.isEmpty || before.isEmpty then ""
  else String.ofList ('.' :: ending.reverse)

end FilePath

end RouteTypes
