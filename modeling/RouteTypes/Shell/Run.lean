import RouteTypes.Program
import RouteTypes.Shell.Builtin
import RouteTypes.Shell.Reader

/-!
# Running shell commands

A shell has parameters, variables, files and an input, and collects what is printed on the
output and on the error output. A command changes the shell; once the shell has ended, nothing
changes it any more. A script that uses up its budget never ends.
-/

namespace RouteTypes.Shell

/-- Where what is printed goes. -/
inductive Sink where
  | output
  | errors
  | file (path : FilePath)
  | nowhere

/-- The places of the output and of the error output. -/
structure Sinks where
  output : Sink
  errors : Sink

/-- The state of a shell. -/
structure State where
  name : String
  arguments : List String
  bindings : List (String × String)
  status : Nat
  files : FileSystem
  input : Bytes
  output : Bytes
  errors : Bytes
  time : Nat
  ended : Option Ending

namespace State

/-- Prints at a place. -/
def print (state : State) (sink : Sink) (bytes : Bytes) : State :=
  match sink with
  | .output => { state with output := state.output ++ bytes }
  | .errors => { state with errors := state.errors ++ bytes }
  | .nowhere => state
  | .file path =>
    let before := (state.files.read path).toOption.getD []
    match state.files.write path (before ++ bytes) with
    | .ok files => { state with files := files }
    | .error _ => state

/-- The shell with the status of a command. -/
def finish (state : State) (status : Nat) : State :=
  { state with status := status }

/-- Prints a complaint of the shell and sets a status. -/
def complain (state : State) (sinks : Sinks) (status : Nat) (text : String) : State :=
  (state.print sinks.errors (Utf8.encodeString (s!"{state.name}: 1: {text}\n"))).finish status

/-- Prints a complaint of a program and sets the status one. -/
def refuse (state : State) (sinks : Sinks) (text : String) : State :=
  (state.print sinks.errors (Utf8.encodeString (text ++ "\n"))).finish 1

/-- Sets a variable. -/
def setVariable (state : State) (name value : String) : State :=
  { state with bindings := (name, value) :: state.bindings.filter (·.1 != name) }

end State

/-- The number under which the shell knows itself. -/
def ownNumber : String := "4242"

/-- The text of bytes, as far as they are text. -/
def textOf (bytes : Bytes) : String :=
  String.ofList (Utf8.decodeLossy bytes)

/-- The value of a parameter. -/
def parameter (state : State) (name : String) : String :=
  match name with
  | "#" => toString state.arguments.length
  | "?" => toString state.status
  | "$" => ownNumber
  | "0" => state.name
  | "*" => " ".intercalate state.arguments
  | "@" => " ".intercalate state.arguments
  | name =>
    match name.toNat? with
    | some place => (state.arguments[place - 1]?).getD ""
    | none => (state.bindings.lookup name).getD ""

/-- Fields of words: those that are complete, the latest first, and the one that goes on. -/
structure Fields where
  complete : List String
  current : Option String

namespace Fields

/-- Adds text to the field that goes on. -/
def add (fields : Fields) (text : String) : Fields :=
  { fields with current := some (fields.current.getD "" ++ text) }

/-- Ends the field that goes on. -/
def close (fields : Fields) : Fields :=
  match fields.current with
  | none => fields
  | some text => ⟨text :: fields.complete, none⟩

/-- Adds a text that is split at blanks. -/
def addSplit (fields : Fields) (text : List Char) : Fields :=
  text.foldl (fun fields c =>
    if isGap c || c == '\n' then fields.close else fields.add c.toString) fields

/-- Adds several fields; the first and the last go on with what is around them. -/
def addAll (fields : Fields) : List String → Fields
  | [] => fields
  | [text] => fields.add text
  | text :: rest => ((fields.add text).close).addAll rest

/-- The fields in their order. -/
def toList (fields : Fields) : List String :=
  fields.close.complete.reverse

end Fields

/-- The number of a signal that is given by number or name. -/
def signal? (text : String) : Option Nat :=
  let names := [("HUP", 1), ("INT", 2), ("QUIT", 3), ("KILL", 9), ("USR1", 10), ("SEGV", 11),
    ("USR2", 12), ("PIPE", 13), ("ALRM", 14), ("TERM", 15), ("ABRT", 6)]
  text.toNat?.or (names.lookup text)

/-- Sends a signal to the shell itself. -/
def kill (state : State) (sinks : Sinks) (signal : Option Nat) (target : String) : State :=
  match signal with
  | none => state.complain sinks 2 "kill: Illegal option"
  | some 0 => state.finish 0
  | some signal =>
    if target == ownNumber then { state with ended := some (.killed signal) }
    else state.complain sinks 1 "kill: No such process"

/-- The duration of a text in millionths of a second. -/
def duration? (text : String) : Option Nat :=
  let unit := match text.toList.getLast? with
    | some 'm' => 60
    | some 'h' => 3600
    | some 'd' => 86400
    | _ => 1
  let number := text.toList.reverse.dropWhile (fun c => "smhd".toList.contains c) |>.reverse
  let whole := number.takeWhile (· != '.')
  let fraction := (number.dropWhile (· != '.')).drop 1
  let digits := whole ++ (fraction ++ List.replicate 6 '0').take 6
  if (whole ++ fraction).isEmpty || !(whole ++ fraction).all Char.isDigit then none
  else (String.ofList digits).toNat?.map (· * unit)

/-- A program complains about an option that it does not know. -/
def unknownOption (state : State) (sinks : Sinks) (program option : String) : State :=
  state.refuse sinks
    (s!"{program}: unrecognized option '{option}'\n" ++
      s!"Try '{program} --help' for more information.")

/-- The first long option of words. -/
def longOption? (words : List String) : Option String :=
  (words.takeWhile (· != "--")).find? fun word => "--".toList.isPrefixOf word.toList

/-- Prints files, or the input for a dash. -/
def cat (sinks : Sinks) (state : State) : List String → State
  | [] => state
  | "-" :: rest =>
    cat sinks ({ state with input := [] }.print sinks.output state.input) rest
  | path :: rest =>
    match state.files.read (FilePath.ofString path) with
    | .ok bytes => cat sinks (state.print sinks.output bytes) rest
    | .error fault =>
      let reason := (fault.obstacle.text.splitOn "] ").getD 1 ""
      cat sinks (state.refuse sinks s!"cat: {path}: {reason}") rest

/-- The first lines of bytes. -/
def firstLines : Nat → Bytes → Bytes
  | 0, _ => []
  | _, [] => []
  | count + 1, byte :: rest =>
    byte :: firstLines (if byte == 10 then count else count + 1) rest

/-- Prints the first part of the input. -/
def head (sinks : Sinks) (state : State) : List String → State
  | ["-c", size] =>
    let count := (size.toNat?).getD 0
    { state with input := state.input.drop count }.print sinks.output (state.input.take count)
  | ["-n", size] =>
    { state with input := [] }.print sinks.output
      (firstLines ((size.toNat?).getD 0) state.input)
  | [option] =>
    match option.toList with
    | '-' :: 'c' :: digits =>
      let count := ((String.ofList digits).toNat?).getD 0
      { state with input := state.input.drop count }.print sinks.output
        (state.input.take count)
    | '-' :: 'n' :: digits =>
      { state with input := [] }.print sinks.output
        (firstLines (((String.ofList digits).toNat?).getD 0) state.input)
    | '-' :: digits =>
      { state with input := [] }.print sinks.output
        (firstLines (((String.ofList digits).toNat?).getD 0) state.input)
    | _ =>
      state.refuse sinks
        s!"head: cannot open '{option}' for reading: No such file or directory"
  | _ => { state with input := [] }.print sinks.output (firstLines 10 state.input)

/-- Waits for the sum of several durations. -/
def sleep (sinks : Sinks) (state : State) (words : List String) : State :=
  if words.isEmpty then
    state.refuse sinks "sleep: missing operand\nTry 'sleep --help' for more information."
  else
    match words.find? fun word => (duration? word).isNone with
    | some word =>
      state.refuse sinks
        s!"sleep: invalid time interval '{word}'\nTry 'sleep --help' for more information."
    | none => { state with time := (words.filterMap duration?).foldl (· + ·) state.time }

/-- Tests words and sets the status. -/
def testWords (sinks : Sinks) (state : State) (name : String) (words : List String) : State :=
  match test state.files words with
  | .ok true => state.finish 0
  | .ok false => state.finish 1
  | .error word => state.complain sinks 2 s!"{name}: Illegal number: {word}"

/-- A program that is no built-in command, where there is one of that name. -/
def program? (name : String) : Option (Sinks → State → List String → State) :=
  let named (sinks : Sinks) (state : State) (words : List String)
      (run : Sinks → State → List String → State) : State :=
    match longOption? words with
    | some option => unknownOption state sinks name option
    | none => run sinks (state.finish 0) (words.filter (· != "--"))
  match name with
  | "cat" => some fun sinks state words => named sinks state words fun sinks state words =>
      cat sinks state (if words.isEmpty then ["-"] else words)
  | "head" => some fun sinks state words => named sinks state words head
  | "sleep" => some fun sinks state words => named sinks state words sleep
  | "true" => some fun _ state _ => state.finish 0
  | "false" => some fun _ state _ => state.finish 1
  | _ => none

/-- The directories of programs. -/
def programDirectories : List (List String) := [["bin"], ["usr", "bin"]]

/-- The name of a program that a path leads to. -/
def programAt? (path : String) : Option String :=
  let path := FilePath.ofString path
  if path.isAbsolute && programDirectories.contains path.names.dropLast then some path.name
  else none

/-- Runs a command that is given by its words. -/
def runWords (sinks : Sinks) (state : State) : List String → State
  | [] => state.finish 0
  | name :: words =>
    match name, words with
    | ":", _ => state.finish 0
    | "echo", words => (state.print sinks.output (echo words)).finish 0
    | "printf", format :: words =>
      (state.print sinks.output (formatAll format.toList words (words.length + 1))).finish 0
    | "exit", words =>
      let status := ((words.head?.bind String.toNat?).getD state.status) % 256
      { state with status := status, ended := some (.exited status) }
    | "kill", [target] => kill state sinks (some 15) target
    | "kill", ["-s", name, target] => kill state sinks (signal? name) target
    | "kill", [option, target] => kill state sinks (signal? ((option.drop 1).toString)) target
    | "test", words => testWords sinks state "test" words
    | "[", words =>
      if words.getLast? == some "]" then testWords sinks state "[" words.dropLast
      else state.complain sinks 2 "[: missing ]"
    | "shift", _ => { state with arguments := state.arguments.drop 1, status := 0 }
    | "read", words =>
      let line := state.input.takeWhile (· != 10)
      let rest := state.input.drop line.length
      let state := { state with input := rest.drop 1, status := if rest.isEmpty then 1 else 0 }
      state.setVariable (words.getLastD "REPLY") (textOf line)
    | name, words =>
      match program? ((programAt? name).getD name) with
      | some run => run sinks state words
      | none =>
        if name.toList.contains '/' then
          match state.files.find (FilePath.ofString name) with
          | .ok _ => state.complain sinks 126 s!"{name}: Permission denied"
          | .error _ => state.complain sinks 127 s!"{name}: not found"
        else state.complain sinks 127 s!"{name}: not found"

/-- The place that a descriptor stands for. -/
def Sinks.at (sinks : Sinks) (descriptor : Nat) : Sink :=
  if descriptor == 2 then sinks.errors else sinks.output

/-- Makes a descriptor stand for a place. -/
def Sinks.put (sinks : Sinks) (descriptor : Nat) (sink : Sink) : Sinks :=
  if descriptor == 2 then { sinks with errors := sink } else { sinks with output := sink }

/-- The path of what is thrown away. -/
def nowherePath : FilePath := ⟨"/", ["dev", "null"]⟩

/-- The status of a part of a script that ran on its own. -/
def statusOf (state : State) : Nat :=
  match state.ended with
  | some (.killed signal) => 128 + signal
  | _ => state.status

/-- The end of a part of a script ends the whole script only if it never comes. -/
def endless (state : State) : Option Ending :=
  match state.ended with
  | some .never => some .never
  | _ => none

/-- The redirections give a command an input of its own. -/
def changeInput (changes : List Redirect) : Bool :=
  changes.any fun change =>
    match change with
    | .read _ => true
    | _ => false

mutual

/-- Adds what a part of a word stands for to fields. -/
def expand (fields : Fields) (state : State) : Piece → Nat → Fields × State
  | _, 0 => (fields, { state with ended := some .never })
  | piece, budget + 1 =>
    match piece with
    | .plain text => (fields.add text, state)
    | .quoted text => (fields.add text, state)
    | .parameter true "@" =>
      (fields.addAll state.arguments, state)
    | .parameter true name => (fields.add (parameter state name), state)
    | .parameter false name => (fields.addSplit (parameter state name).toList, state)
    | .arithmetic _ expression =>
      let (text, state) := expandText state expression budget
      (fields.add (toString (calculate state.bindings text.toList)), state)
    | .output inQuotes command =>
      let inner := run ⟨.output, .errors⟩ { state with output := [] } command budget
      let printed := (textOf inner.output).toList.reverse.dropWhile (· == '\n') |>.reverse
      let state := { state with
        input := inner.input, errors := state.errors ++ inner.errors.drop state.errors.length,
        files := inner.files, time := inner.time, status := inner.status }
      if inQuotes then (fields.add (String.ofList printed), state)
      else (fields.addSplit printed, state)

/-- The fields of the parts of a word. -/
def expandPieces (fields : Fields) (state : State) : Word → Nat → Fields × State
  | _, 0 => (fields, { state with ended := some .never })
  | [], _ => (fields, state)
  | piece :: rest, budget + 1 =>
    let (fields, state) := expand fields state piece budget
    expandPieces fields state rest budget

/-- The text of a word that is not split. -/
def expandText (state : State) : Word → Nat → String × State
  | _, 0 => ("", { state with ended := some .never })
  | word, budget + 1 =>
    let (fields, state) := expandPieces ⟨[], none⟩ state word budget
    (" ".intercalate fields.toList, state)

/-- The fields of words. -/
def expandWords (state : State) : List Word → Nat → List String × State
  | _, 0 => ([], { state with ended := some .never })
  | [], _ => ([], state)
  | word :: rest, budget + 1 =>
    let (fields, state) := expandPieces ⟨[], none⟩ state word budget
    let (others, state) := expandWords state rest budget
    (fields.toList ++ others, state)

/-- Sets variables. -/
def assign (state : State) : List (String × Word) → Nat → State
  | _, 0 => { state with ended := some .never }
  | [], _ => state
  | (name, value) :: rest, budget + 1 =>
    let (text, state) := expandText state value budget
    assign (state.setVariable name text) rest budget

/-- Applies redirections. Fails where a file cannot be opened. -/
def redirected (sinks : Sinks) (state : State) : List Redirect → Nat → Option Sinks × State
  | _, 0 => (none, { state with ended := some .never })
  | [], _ => (some sinks, state)
  | .copy descriptor source :: rest, budget + 1 =>
    redirected (sinks.put descriptor (sinks.at source)) state rest budget
  | .write descriptor append path :: rest, budget + 1 =>
    let (text, state) := expandText state path budget
    let path := FilePath.ofString text
    if path == nowherePath then redirected (sinks.put descriptor .nowhere) state rest budget
    else
      let before := if append then (state.files.read path).toOption.getD [] else []
      match state.files.write path before with
      | .ok files =>
        redirected (sinks.put descriptor (.file path)) { state with files := files } rest budget
      | .error _ =>
        (none, state.complain sinks 2 s!"cannot create {text}: Directory nonexistent")
  | .read path :: rest, budget + 1 =>
    let (text, state) := expandText state path budget
    let path := FilePath.ofString text
    if path == nowherePath then redirected sinks { state with input := [] } rest budget
    else
      match state.files.read path with
      | .ok bytes => redirected sinks { state with input := bytes } rest budget
      | .error _ => (none, state.complain sinks 2 s!"cannot open {text}: No such file")

/-- Runs a command. -/
def run (sinks : Sinks) (state : State) : Command → Nat → State
  | _, 0 => { state with ended := some .never }
  | command, budget + 1 =>
    if state.ended.isSome then state
    else
      match command with
      | .nothing => state
      | .simple assignments words changes =>
        let (fields, state) := expandWords state words budget
        let state := if words.isEmpty then state.finish 0 else state
        let state := assign state assignments budget
        let input := state.input
        match redirected sinks state changes budget with
        | (none, state) => state
        | (some inner, state) =>
          if fields.isEmpty then state
          else
            let state := runWords inner state fields
            if changeInput changes then { state with input := input }
            else state
      | .sequence first second => run sinks (run sinks state first budget) second budget
      | .both first second =>
        let state := run sinks state first budget
        if state.status == 0 then run sinks state second budget else state
      | .either first second =>
        let state := run sinks state first budget
        if state.status == 0 then state else run sinks state second budget
      | .negation inner =>
        let state := run sinks state inner budget
        state.finish (if state.status == 0 then 1 else 0)
      | .pipe left right =>
        let before := run ⟨.output, sinks.errors⟩ { state with output := [] } left budget
        let middle := { state with
          files := before.files, errors := before.errors, time := before.time,
          input := before.output, ended := endless before }
        let after := run sinks middle right budget
        { state with
          files := after.files, errors := after.errors, output := after.output,
          time := after.time, input := before.input, status := statusOf after,
          ended := endless after }
      | .loop whilst condition body =>
        let state := run sinks state condition budget
        if state.ended.isSome then state
        else if (state.status == 0) == whilst then
          run sinks (run sinks state body budget) (.loop whilst condition body) budget
        else state.finish 0
      | .choice condition yes no =>
        let state := run sinks state condition budget
        if state.status == 0 then run sinks state yes budget
        else run sinks (state.finish 0) no budget
      | .each name words body =>
        let (fields, state) := expandWords state words budget
        runEach sinks state name fields body budget
      | .group body changes =>
        let input := state.input
        match redirected sinks state changes budget with
        | (none, state) => state
        | (some inner, state) =>
          let state := run inner state body budget
          if changeInput changes then { state with input := input }
          else state
      | .apart body changes =>
        match redirected sinks state changes budget with
        | (none, state) => state
        | (some inner, state) =>
          let after := run inner state body budget
          { state with
            files := after.files, errors := after.errors, output := after.output,
            time := after.time, input := after.input, status := statusOf after,
            ended := endless after }

/-- Runs a command for each of several values of a variable. -/
def runEach (sinks : Sinks) (state : State) (name : String) (values : List String)
    (body : Command) : Nat → State
  | 0 => { state with ended := some .never }
  | budget + 1 =>
    match values with
    | [] => state
    | value :: rest =>
      runEach sinks (run sinks (state.setVariable name value) body budget) name rest body budget

end

/-- The budget of a script. -/
def budget : Nat := 100000

/-- Runs a script with its name, its arguments, variables, files and input. -/
def runScript (script name : String) (arguments : List String)
    (bindings : Environment) (files : FileSystem) (input : Bytes) : Child :=
  let start : State := ⟨name, arguments, bindings, 0, files, input, [], [], 0, none⟩
  let sinks : Sinks := ⟨.output, .errors⟩
  let state := match read script with
    | .error reason => start.complain sinks 2 ("Syntax error: " ++ reason)
    | .ok command => run sinks start command budget
  ⟨state.files, state.ended.getD (.exited state.status), state.output, state.errors, state.time,
    .stopped⟩

end RouteTypes.Shell
