import RouteTypes.CommandLine
import RouteTypes.Shell.Programs
import Std.Time.DateTime

/-!
# The program

Reads what a run may ask for, runs, and writes what the run has changed. The files are those of
the working directory and those that the command line names. There is no network.
-/

namespace RouteTypes.Program

/-- The variables of the environment that count. -/
def variableNames : List String :=
  ["APITYPES_CONTRACTS_FILE", "APITYPES_CONTRACTS_URL", "APITYPES_OUTPUT", "APITYPES_COMPILER",
   "NO_COLOR", "TERM", "COLUMNS", "HOME", "XDG_DATA_HOME", "PATH"]

/-- The environment. -/
def readEnvironment : IO Environment :=
  variableNames.filterMapM fun name => do
    return (← IO.getEnv name).map fun value => (name, value)

/-- Adds a file, or a directory with what it holds, unless this may not be asked for. -/
partial def readTree (files : FileSystem) (entry : IO.FS.DirEntry) : IO FileSystem := do
  let place := FilePath.ofString entry.path.toString
  if ← entry.path.isDir then
    match ← entry.path.readDir.toBaseIO with
    | .ok entries => entries.foldlM readTree (files.makeDirectories place).1
    | .error _ => return files.set place.names .locked
  else
    match ← (IO.FS.readBinFile entry.path).toBaseIO with
    | .ok content => return (files.save place content.toList).1
    | .error _ => return files

/-- The files that a run with the given words may ask for. -/
def readFiles (words : List String) : IO FileSystem := do
  let directory := toString (← IO.currentDir)
  let names := (FilePath.ofString directory).names
  let files ← readTree ⟨names, []⟩ ⟨directory, "."⟩
  words.foldlM (fun files word => do
    let entry : IO.FS.DirEntry := ⟨"/", word⟩
    if word.startsWith "/" && (← entry.path.pathExists) then readTree files entry
    else return files) files

/-- Writes the files that are new or changed. -/
def writeFiles (before after : FileSystem) : IO Unit :=
  after.nodes.forM fun (place, node) => do
    let path := FilePath.toString ⟨"/", place⟩
    match node with
    | .directory => IO.FS.createDirAll path
    | .locked => pure ()
    | .file content =>
      if before.nodes.lookup place != some node then
        IO.FS.writeBinFile path ⟨content.toArray⟩

/-- The time as it stands in the names of reports. -/
def readMoment : IO String := do
  let time := Std.Time.PlainDateTime.ofWallTime
    ((← Std.Time.Timestamp.now).toWallTime .zero)
  let part (width : Nat) (value : Int) := Calendar.padded width value.toNat
  return part 4 time.year ++ part 2 time.month.val ++ part 2 time.day.val ++ "-" ++
    part 2 time.hour.val ++ part 2 time.minute.val ++ part 2 time.second.val

/-- The name of the system. -/
def systemName : String := "Linux"

/-- The host of a run with the given words. -/
def readHost (words : List String) : IO Host := do
  let environment ← readEnvironment
  let host : Host := ⟨← readFiles words, [], environment, [], systemName, [],
    Shell.programs environment⟩
  if CommandLine.readsInput host words then
    return { host with input := Utf8.encodeString (← (← IO.getStdin).readToEnd) }
  else return host

/-- Runs the program with the words of the command line: the status of the run. -/
def start (words : List String) : IO UInt32 := do
  let host ← readHost words
  let outcome := CommandLine.run host (← readMoment) words
  writeFiles host.files outcome.world.host.files
  (← IO.getStdout).putStr outcome.world.output.content
  (← IO.getStderr).putStr outcome.world.messages
  match outcome.status with
  | .ok status => return status.toUInt32
  | .error (.report fault) =>
    (← IO.getStderr).putStrLn fault.message
    return 1
  | .error .endless => return 1

end RouteTypes.Program

/-- Runs the program with the words of the command line. -/
def main (words : List String) : IO UInt32 :=
  RouteTypes.Program.start words
