import RouteTypes.Check.Collection
import RouteTypes.Json.Writer
import RouteTypes.Program
import RouteTypes.Text.Blank
import RouteTypes.Text.Lines

/-!
# The compiler

An external program turns a schema into declarations. It gets the schema as JSON on its input,
with the name of the root interface as title, and writes the declarations to its output. It has
to end in time, with status zero and with a text as output.

Starting the compiler is split in two: a `Job` is made from the schema without asking the host,
and `Job.run` hands it to the programs of the host. Whether the input can be encoded shows only
when the program has been started.
-/

namespace RouteTypes

/-- The settings of the compiler: the words of its command, whether it ignores bounds on the
number of items, the comment at the top of its output, and how many seconds it may take. -/
structure Compiler where
  command : List String
  ignoresBounds : Bool
  banner : Option String
  timeout : Binary64
  deriving DecidableEq, Repr

namespace Compiler

/-- The settings that count unless others are given. -/
def default : Compiler := ⟨["json2ts"], true, none, .ofInt 120⟩

/-- The command with the options for the settings. -/
def arguments (compiler : Compiler) : List String :=
  compiler.command ++
    (if compiler.ignoresBounds then ["--ignoreMinAndMaxItems"] else []) ++
    (match compiler.banner with
      | some comment => ["--bannerComment", comment]
      | none => [])

/-- Why there are no declarations. A program that is to be stopped may be gone already, and one
whose outputs are never closed is waited for without end. -/
inductive Fault where
  | noCommand
  | unwritable (cause : Json.Unwritable)
  | missing (command : String)
  | forbidden (command : String)
  | refused (fault : FileFault)
  | unencodable (fault : Utf8.HalfFault)
  | timedOut (seconds : Binary64)
  | gone
  | endless
  | failed (status : Int) (report : List String)
  | undecodable (fault : Utf8.Fault)
  | noOutput

/-- What the user is told. -/
def Fault.message : Fault → String
  | .noCommand => "No compiler command configured"
  | .unwritable cause => cause.message
  | .missing command =>
    s!"Compiler not found: {command}. Install it: npm install --global " ++
      "json-schema-to-typescript"
  | .forbidden command => s!"Compiler is not executable: {command}"
  | .refused fault => fault.message
  | .unencodable fault => fault.message
  | .timedOut seconds => s!"Compiler timed out after {seconds.sixDigitText} seconds"
  | .gone => ""
  | .endless => ""
  | .failed status report =>
    s!"Compiler exited with status {status}" ++
      (if report.isEmpty then ""
        else ":\n" ++ "\n".intercalate (report.map fun line => "  " ++ line))
  | .undecodable fault => fault.message
  | .noOutput => "Compiler produced no output"

/-- A run of the compiler that has not been started: its command, its input, unless this cannot be
encoded, and its time. -/
structure Job where
  arguments : List String
  payload : Except Utf8.HalfFault String
  timeout : Binary64

/-- The input of the compiler: the schema with the name of the root interface as title. -/
def payload (schema : Fields) (root : String) : Except Json.Unwritable String :=
  Json.write .line (.ofFields (Fields.put schema "title" (.text root)))

/-- The job of compiling a schema. -/
def job (compiler : Compiler) (schema : Fields) (root : String) : Except Fault Job :=
  if compiler.command.isEmpty then .error .noCommand
  else
    match payload schema root with
    | .ok text => .ok ⟨compiler.arguments, .ok text, compiler.timeout⟩
    | .error (.half fault) => .ok ⟨compiler.arguments, .error fault, compiler.timeout⟩
    | .error cause => .error (.unwritable cause)

/-- How many lines of a failed compiler are shown. -/
def reportLength : Nat := 20

/-- The last lines of what a failed compiler has written. -/
def report (errors : Bytes) : List String :=
  let lines := (Text.lines (Text.trim (Utf8.decodeLossy errors))).map String.ofList
  lines.drop (lines.length - reportLength)

/-- A time in millionths of a second is over. -/
def isOver (timeout : Binary64) (time : Nat) : Bool :=
  match timeout.toRatio? with
  | some (negative, numerator, denominator) =>
    negative || numerator == 0 || numerator * 1000000 < time * denominator
  | none =>
    match timeout with
    | .infinite false => false
    | _ => true

/-- A program takes longer than it may. One that never ends does, unless there is all the time. -/
def isLate (timeout : Binary64) (child : Child) : Bool :=
  match child.ending with
  | .never => timeout != .infinite false
  | _ => isOver timeout child.time

/-- What comes of stopping a program that is late. -/
def stop (timeout : Binary64) : Remains → Fault
  | .gone => .gone
  | .stopped => .timedOut timeout
  | .held => .endless

/-- What a program has given that has been started. -/
def outcome (timeout : Binary64) (child : Child) : Except Fault String :=
  if isLate timeout child then .error (stop timeout child.remains)
  else
    match child.ending with
    | .never => .error .endless
    | .killed signal => .error (.failed (-signal) (report child.errors))
    | .exited 0 => (Utf8.decode child.output).mapError .undecodable |>.map String.ofList
    | .exited status => .error (.failed status (report child.errors))

/-- Why the program of a command was not started. By its number an obstacle is known as a program
that is missing, as one that may not be run, or as any other. -/
def Fault.ofRefusal (command : String) (fault : FileFault) : Fault :=
  match fault.obstacle.number? with
  | some 2 => .missing command
  | some 1 => .forbidden command
  | some 13 => .forbidden command
  | _ => .refused fault

/-- The bytes that the program of a job is given. -/
def Job.input (job : Job) : Bytes :=
  match job.payload with
  | .ok text => Utf8.encodeString text
  | .error _ => []

/-- What comes of a job whose program has been started. -/
def Job.outcome (job : Job) (child : Child) : Except Fault String :=
  match job.payload with
  | .ok _ => Compiler.outcome job.timeout child
  | .error fault => .error (.unencodable fault)

/-- Runs a job: the files afterwards and the declarations. -/
def Job.run (job : Job) (programs : Programs) (files : FileSystem) :
    FileSystem × Except Fault String :=
  let command := job.arguments.headD ""
  match programs files job.arguments job.input with
  | .missing => (files, .error (.missing command))
  | .forbidden => (files, .error (.forbidden command))
  | .refused fault => (files, .error (.ofRefusal command fault))
  | .ran child => (child.files, job.outcome child)

/-- Checks the settings of the compiler. -/
def check (value : Value) : Checked Compiler := do
  let entries ← Check.record "CompilerOptions" value
  let command := Check.fieldOr default.command entries ["command"] (Check.list Check.text)
  let ignoresBounds :=
    Check.fieldOr default.ignoresBounds entries ["ignore_min_and_max_items"] Check.truth
  let banner := Check.fieldOr default.banner entries ["banner_comment"] (Check.optional Check.text)
  let timeout := Check.fieldOr default.timeout entries ["timeout"] Check.number
  let (command, ignoresBounds, banner, timeout) ← Checked.both command
    (Checked.both ignoresBounds (Checked.both banner timeout))
  return ⟨command, ignoresBounds, banner, timeout⟩

/-- The settings as a value. -/
def toValue (compiler : Compiler) : Value :=
  .ofFields
    [("command", .list (compiler.command.map .text)),
     ("ignore_min_and_max_items", .bool compiler.ignoresBounds),
     ("banner_comment", (compiler.banner.map Value.text).getD .null),
     ("timeout", .scalar (.float compiler.timeout))]

end Compiler

end RouteTypes
