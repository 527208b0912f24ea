import RouteTypes.Shell.Run

/-!
# The programs of a plain host

A plain host has the command shell and a few small programs, in the usual directories. A name
without a slash is looked up in the directories of the search path. None of its other files can
be executed.
-/

namespace RouteTypes.Shell

/-- The names of the programs. -/
def programNames : List String :=
  ["sh", "dash", "cat", "head", "sleep", "true", "false", "echo", "printf"]

/-- The search path where none is set. -/
def defaultSearchPath : String := "/bin:/usr/bin"

/-- What a shell has done after a command that is given by its words. -/
def State.child (state : State) : Child :=
  ⟨state.files, state.ended.getD (.exited state.status), state.output, state.errors, state.time,
    .stopped⟩

/-- The letters of options of the shell that stand before a script. -/
def isShellOption (word : String) : Bool :=
  match word.toList with
  | '-' :: letters => !letters.isEmpty && letters.all fun c => "ceux".toList.contains c
  | _ => false

/-- Runs the shell with its arguments. -/
def runShell (environment : Environment) (files : FileSystem) (words : List String)
    (input : Bytes) : Child :=
  let directory := FilePath.toString ⟨"/", files.directory⟩
  let bindings := environment ++ [("PWD", directory)]
  let complaint (text : String) : Child :=
    ⟨files, .exited 2, [], Utf8.encodeString (s!"sh: 0: {text}\n"), 0, .stopped⟩
  match words with
  | [] => runScript (textOf input) "sh" [] bindings files []
  | word :: rest =>
    if isShellOption word then
      match word.toList.contains 'c', rest with
      | true, [] => complaint "-c requires an argument"
      | true, script :: name :: rest => runScript script name rest bindings files input
      | true, [script] => runScript script "sh" [] bindings files input
      | false, script :: rest =>
        match files.read (FilePath.ofString script) with
        | .ok bytes => runScript (textOf bytes) script rest bindings files input
        | .error _ => complaint s!"cannot open {script}: No such file"
      | false, [] => runScript (textOf input) "sh" [] bindings files []
    else if "--".toList.isPrefixOf word.toList then complaint "Illegal option --"
    else
      match files.read (FilePath.ofString word) with
      | .ok bytes => runScript (textOf bytes) word rest bindings files input
      | .error _ => complaint s!"cannot open {word}: No such file"

/-- Runs a program with its arguments. -/
def runProgram (environment : Environment) (name : String) (files : FileSystem)
    (words : List String) (input : Bytes) : Child :=
  let start : State := ⟨name, [], environment, 0, files, input, [], [], 0, none⟩
  let sinks : Sinks := ⟨.output, .errors⟩
  match name with
  | "sh" => runShell environment files words input
  | "dash" => runShell environment files words input
  | "echo" =>
    (start.print .output (Utf8.encodeString (" ".intercalate words ++ "\n"))).child
  | "printf" => (runWords sinks start ("printf" :: words)).child
  | name =>
    match program? name with
    | some run => (run sinks start words).child
    | none => start.child

/-- What comes of starting what a path leads to. -/
def launchAt (environment : Environment) (path : String) (files : FileSystem) (words : List String)
    (input : Bytes) : Launch :=
  match programAt? path with
  | some name =>
    if programNames.contains name then .ran (runProgram environment name files words input)
    else if name == "" then .forbidden
    else if 255 < name.utf8ByteSize then .refused ⟨.nameTooLong, path⟩
    else .missing
  | none =>
    match files.find (FilePath.ofString path) with
    | .ok _ => .forbidden
    | .error .missing => .missing
    | .error obstacle => .refused ⟨obstacle, path⟩

/-- Tries the directories of a search path one after the other. The first program that is found
is run; else the gravest obstacle counts. -/
def launchIn (environment : Environment) (name : String) (files : FileSystem) (words : List String)
    (input : Bytes) (worst : Launch) : List String → Launch
  | [] => worst
  | directory :: rest =>
    let path := if directory == "" then name else directory ++ "/" ++ name
    match launchAt environment path files words input with
    | .ran child => .ran child
    | .missing => launchIn environment name files words input worst rest
    | .refused ⟨.notDirectory, _⟩ => launchIn environment name files words input worst rest
    | .refused ⟨obstacle, _⟩ =>
      launchIn environment name files words input
        (match worst with
          | .missing => .refused ⟨obstacle, name⟩
          | worst => worst) rest
    | .forbidden =>
      launchIn environment name files words input
        (match worst with
          | .missing => .forbidden
          | worst => worst) rest

/-- The programs of a plain host. -/
def programs (environment : Environment) : Programs := fun files arguments input =>
  match arguments with
  | [] => .missing
  | name :: words =>
    if arguments.any fun word => word.toList.contains '\x00' then
      .refused ⟨.nullCharacter, name⟩
    else if name == "" then .forbidden
    else if name.toList.contains '/' then launchAt environment name files words input
    else
      let search := (environment.lookup "PATH").getD defaultSearchPath
      launchIn environment name files words input .missing (Text.splitString ':' search)

end RouteTypes.Shell
