import RouteTypes.FilePath
import RouteTypes.Text.Quoted

/-!
# The file system

A tree of directories and files, each known by the names on the way to it from the root. Paths
are followed name by name, so a double dot leads back only from a directory that exists.
Operations either give a new tree or say what is in the way and at which path.
-/

namespace RouteTypes

/-- What stands at a place of the file system. Nobody may ask what a locked directory holds. -/
inductive FileNode where
  | directory
  | locked
  | file (content : Bytes)
  deriving DecidableEq, Repr

/-- What stands there is a directory. -/
def FileNode.isDirectory : FileNode → Bool
  | .file _ => false
  | _ => true

/-- The places of a file system, each with what stands there, and the working directory. -/
structure FileSystem where
  directory : List String
  nodes : List (List String × FileNode)
  deriving Repr

/-- What is in the way of an operation on a path. There is more that can be in the way of starting a
program than of the other operations. -/
inductive FileObstacle where
  | missing
  | exists
  | notDirectory
  | isDirectory
  | forbidden
  | nameTooLong
  | nullCharacter
  | other (number : Nat) (reason : String)
  deriving DecidableEq, Repr

/-- An operation that was not possible, and the path in question. -/
structure FileFault where
  obstacle : FileObstacle
  path : String
  deriving DecidableEq, Repr

/-- The system reports the obstacle. A path with a null character is never given to it. -/
def FileObstacle.isReported : FileObstacle → Bool
  | .nullCharacter => false
  | _ => true

/-- The number under which the system reports an obstacle. -/
def FileObstacle.number? : FileObstacle → Option Nat
  | .missing => some 2
  | .exists => some 17
  | .notDirectory => some 20
  | .isDirectory => some 21
  | .forbidden => some 13
  | .nameTooLong => some 36
  | .nullCharacter => none
  | .other number _ => some number

/-- The number and the text by which an obstacle is known. -/
def FileObstacle.text : FileObstacle → String
  | .missing => "[Errno 2] No such file or directory"
  | .exists => "[Errno 17] File exists"
  | .notDirectory => "[Errno 20] Not a directory"
  | .isDirectory => "[Errno 21] Is a directory"
  | .forbidden => "[Errno 13] Permission denied"
  | .nameTooLong => "[Errno 36] File name too long"
  | .nullCharacter => "embedded null byte"
  | .other number reason => s!"[Errno {number}] {reason}"

/-- What the user is told. -/
def FileFault.message (fault : FileFault) : String :=
  match fault.obstacle with
  | .nullCharacter => fault.obstacle.text
  | obstacle => obstacle.text ++ ": " ++ Text.quoted fault.path

namespace FileSystem

/-- What stands at a place. The root and the places around the working directory are
directories. -/
def node? (system : FileSystem) (place : List String) : Option FileNode :=
  match system.nodes.lookup place with
  | some node => some node
  | none => if place.isPrefixOf system.directory then some .directory else none

/-- Puts a node at a place. -/
def set (system : FileSystem) (place : List String) (node : FileNode) : FileSystem :=
  { system with
    nodes := system.nodes.filter (fun entry => entry.1 != place) ++ [(place, node)] }

/-- The place one name further, where the names before the last have to be directories. -/
def enter (system : FileSystem) (place : List String) (name : String) :
    Except FileObstacle (List String) :=
  match system.node? place with
  | none => .error .missing
  | some (.file _) => .error .notDirectory
  | some .locked => .error .forbidden
  | some .directory =>
    if name == ".." then .ok place.dropLast
    else if 255 < name.utf8ByteSize then .error .nameTooLong
    else .ok (place ++ [name])

/-- The place that a path leads to. -/
def locate (system : FileSystem) (path : FilePath) : Except FileObstacle (List String) :=
  let start := if path.isAbsolute then [] else system.directory
  if path.toString.toList.contains '\x00' then .error .nullCharacter
  else if 4095 < path.toString.utf8ByteSize then .error .nameTooLong
  else path.names.foldlM system.enter start

/-- What a path leads to. -/
def find (system : FileSystem) (path : FilePath) : Except FileObstacle FileNode := do
  let place ← system.locate path
  match system.node? place with
  | some node => .ok node
  | none => .error .missing

/-- The path leads to a file. Names that are too long and locked directories on the way make the
question fail, other obstacles do not. -/
def isFile (system : FileSystem) (path : FilePath) : Except FileFault Bool :=
  match system.find path with
  | .ok (.file _) => .ok true
  | .error .nameTooLong => .error ⟨.nameTooLong, path.toString⟩
  | .error .forbidden => .error ⟨.forbidden, path.toString⟩
  | _ => .ok false

/-- The path leads to a directory. -/
def isDirectory (system : FileSystem) (path : FilePath) : Bool :=
  match system.find path with
  | .ok node => node.isDirectory
  | .error _ => false

/-- The content of the file that a path leads to. -/
def read (system : FileSystem) (path : FilePath) : Except FileFault Bytes :=
  match system.find path with
  | .ok (.file content) => .ok content
  | .ok .directory => .error ⟨.isDirectory, path.toString⟩
  | .ok .locked => .error ⟨.forbidden, path.toString⟩
  | .error obstacle => .error ⟨obstacle, path.toString⟩

/-- Makes one directory, where nothing may stand yet. -/
def makeDirectory (system : FileSystem) (path : FilePath) : Except FileObstacle FileSystem := do
  let place ← system.locate path
  match system.node? place with
  | some _ => .error .exists
  | none =>
    match system.node? place.dropLast with
    | some .directory => .ok (system.set place .directory)
    | some .locked => .error .forbidden
    | some (.file _) => .error .notDirectory
    | none => .error .missing

/-- Makes a directory and those around it that are missing; one that exists is left alone. The
number of names of the path bounds how many are missing. -/
def makeDirectoriesFrom (system : FileSystem) (path : FilePath) :
    Nat → FileSystem × Except FileFault Unit
  | 0 => (system, .error ⟨.missing, path.toString⟩)
  | fuel + 1 =>
    match system.makeDirectory path with
    | .ok system => (system, .ok ())
    | .error .missing =>
      if path.parent == path then (system, .error ⟨.missing, path.toString⟩)
      else
        match makeDirectoriesFrom system path.parent fuel with
        | (system, .error fault) => (system, .error fault)
        | (system, .ok ()) =>
          match system.makeDirectory path with
          | .ok system => (system, .ok ())
          | .error obstacle =>
            if obstacle != .nullCharacter && system.isDirectory path then (system, .ok ())
            else (system, .error ⟨obstacle, path.toString⟩)
    | .error obstacle =>
      if obstacle != .nullCharacter && system.isDirectory path then (system, .ok ())
      else (system, .error ⟨obstacle, path.toString⟩)

/-- Makes a directory and those around it. What was made before an obstacle stays. -/
def makeDirectories (system : FileSystem) (path : FilePath) :
    FileSystem × Except FileFault Unit :=
  system.makeDirectoriesFrom path (path.names.length + 1)

/-- Replaces or makes a file in a directory that exists. -/
def write (system : FileSystem) (path : FilePath) (content : Bytes) :
    Except FileFault FileSystem :=
  match system.locate path with
  | .error obstacle => .error ⟨obstacle, path.toString⟩
  | .ok place =>
    match system.node? place with
    | some .directory => .error ⟨.isDirectory, path.toString⟩
    | some .locked => .error ⟨.isDirectory, path.toString⟩
    | some (.file _) => .ok (system.set place (.file content))
    | none =>
      match system.node? place.dropLast with
      | some .directory => .ok (system.set place (.file content))
      | some .locked => .error ⟨.forbidden, path.toString⟩
      | some (.file _) => .error ⟨.notDirectory, path.toString⟩
      | none => .error ⟨.missing, path.toString⟩

/-- Writes a file after making the directories around it. -/
def save (system : FileSystem) (path : FilePath) (content : Bytes) :
    FileSystem × Except FileFault Unit :=
  match system.makeDirectories path.parent with
  | (system, .error fault) => (system, .error fault)
  | (system, .ok ()) =>
    match system.write path content with
    | .ok system => (system, .ok ())
    | .error fault => (system, .error fault)

end FileSystem

end RouteTypes
