import RouteTypes.FileSystem

/-!
# Output

Texts are written to files, with the directories around them made first, or to outlets that are
open already. An outlet may be in trouble: then nothing can be written, or what was written
cannot be passed on.
-/

namespace RouteTypes

/-- What is in the way of an outlet. -/
inductive OutletFault where
  | closedPipe
  | noSpace
  deriving DecidableEq, Repr

/-- The number and the text by which the trouble of an outlet is known. -/
def OutletFault.message : OutletFault → String
  | .closedPipe => "[Errno 32] Broken pipe"
  | .noSpace => "[Errno 28] No space left on device"

/-- Why a text could not be written. -/
inductive OutputFault where
  | file (path : String) (fault : FileFault)
  | impossible (fault : FileFault)
  | outlet (fault : OutletFault)
  deriving DecidableEq, Repr

/-- What the user is told. -/
def OutputFault.message : OutputFault → String
  | .file path fault => s!"Failed to write {path}: {fault.message}"
  | .impossible fault => fault.message
  | .outlet fault => s!"Failed to write output: {fault.message}"

/-- An outlet: what was written to it, and the trouble of writing and of passing on. -/
structure Outlet where
  content : String
  writing : Option OutletFault
  passing : Option OutletFault
  deriving DecidableEq, Repr

/-- An outlet without trouble to which nothing was written. -/
def Outlet.empty : Outlet := ⟨"", none, none⟩

/-- Writes a text to an outlet. -/
def Outlet.write (outlet : Outlet) (text : String) : Outlet × Except OutputFault Unit :=
  match outlet.writing with
  | some fault => (outlet, .error (.outlet fault))
  | none =>
    let outlet := { outlet with content := outlet.content ++ text }
    match outlet.passing with
    | some fault => (outlet, .error (.outlet fault))
    | none => (outlet, .ok ())

/-- Writes a text to a file. A path that no file can have is no trouble of writing. -/
def FileSystem.writeText (files : FileSystem) (path text : String) :
    FileSystem × Except OutputFault Unit :=
  let file := FilePath.ofString path
  match files.save file (Utf8.encodeString text) with
  | (files, .ok ()) => (files, .ok ())
  | (files, .error fault) =>
    if fault.obstacle.isReported then (files, .error (.file file.toString fault))
    else (files, .error (.impossible fault))

end RouteTypes
