import RouteTypes.Settings.Layer

/-!
# Words of the command line

The words of the command line are options with their values. A long option may be followed by its
value in the same word, behind an equals sign; short options may share a word, the last of them
with its value. Any option that needs a value takes the next word, whatever that looks like. Two
dashes end the options. Other words are not expected.
-/

namespace RouteTypes.CommandLine

/-- Options without a value. -/
inductive Flag where
  | version
  | help
  | plain
  | quiet
  | verbose
  deriving DecidableEq, Repr

/-- Options with a value. -/
inductive Field where
  | output
  | contractFile
  | contractAddress
  | routesFile
  | route
  | pattern
  | schemaOutput
  | compiler
  deriving DecidableEq, Repr

/-- An option. -/
inductive Name where
  | flag (flag : Flag)
  | field (field : Field)
  deriving DecidableEq, Repr

/-- The options by their long names. -/
def longNames : List (String × Name) :=
  [("--output", .field .output), ("--contracts-file", .field .contractFile),
   ("--contracts-url", .field .contractAddress), ("--paths-file", .field .routesFile),
   ("--path", .field .route), ("--path-pattern", .field .pattern),
   ("--schema-output", .field .schemaOutput), ("--compiler", .field .compiler),
   ("--version", .flag .version), ("--help", .flag .help), ("--no-color", .flag .plain),
   ("--quiet", .flag .quiet), ("--verbose", .flag .verbose)]

/-- The options by their letters. -/
def letters : List (Char × Name) :=
  [('o', .field .output), ('p', .field .route), ('r', .field .pattern), ('q', .flag .quiet),
   ('v', .flag .verbose)]

/-- What is wrong with the words of a command line. -/
inductive UsageFault where
  | unknown (name : String)
  | noValue (name : String)
  | withValue (name : String)
  | unexpected (words : List String)
  deriving DecidableEq, Repr

/-- What the user is told. -/
def UsageFault.message : UsageFault → String
  | .unknown name => s!"No such option: {name}"
  | .noValue name => s!"Option {Text.quoted name} requires an argument."
  | .withValue name => s!"Option {Text.quoted name} does not take a value."
  | .unexpected words =>
    (if words.length == 1 then "Got unexpected extra argument ("
      else "Got unexpected extra arguments (") ++ " ".intercalate words ++ ")"

/-- An option that is given. -/
inductive Given where
  | flag (flag : Flag)
  | value (field : Field) (value : String)
  deriving DecidableEq, Repr

/-- What one word gives, and the option at its end that takes the next word. -/
structure Reading where
  given : List Given
  open? : Option (String × Field)

/-- Reads a word with a long option. -/
def readLong (name : String) (value : Option String) : Except UsageFault Reading :=
  match longNames.lookup name, value with
  | none, _ => .error (.unknown name)
  | some (.flag flag), none => .ok ⟨[.flag flag], none⟩
  | some (.flag _), some _ => .error (.withValue name)
  | some (.field field), some value => .ok ⟨[.value field value], none⟩
  | some (.field field), none => .ok ⟨[], some (name, field)⟩

/-- Reads the letters of a word with short options. -/
def readLetters : List Char → Except UsageFault Reading
  | [] => .ok ⟨[], none⟩
  | letter :: rest =>
    let name := String.ofList ['-', letter]
    match letters.lookup letter with
    | none => .error (.unknown name)
    | some (.flag flag) => do
      let reading ← readLetters rest
      return { reading with given := .flag flag :: reading.given }
    | some (.field field) =>
      if rest.isEmpty then .ok ⟨[], some (name, field)⟩
      else .ok ⟨[.value field (String.ofList rest)], none⟩

/-- The word begins an option. -/
def isOption (word : String) : Bool :=
  match word.toList with
  | '-' :: _ :: _ => true
  | _ => false

/-- Reads a word that begins an option. A word with a single dash gives short options. -/
def readWord (word : String) : Except UsageFault Reading :=
  let (name, value) := Text.cut '=' word.toList
  match word.toList with
  | '-' :: '-' :: _ => readLong (String.ofList name) (value.map String.ofList)
  | _ :: rest => readLetters rest
  | [] => .ok ⟨[], none⟩

/-- What the words of a command line give, and the words that are not expected. -/
structure Words where
  given : List Given
  extra : List String

/-- Puts options before others. -/
def Words.after (given : List Given) (words : Words) : Words :=
  { words with given := given ++ words.given }

/-- Reads the words of a command line. -/
def readWords : List String → Except UsageFault Words
  | [] => .ok ⟨[], []⟩
  | word :: rest =>
    if word == "--" then .ok ⟨[], rest⟩
    else if isOption word then
      match readWord word with
      | .error fault => .error fault
      | .ok ⟨given, none⟩ => (readWords rest).map (Words.after given)
      | .ok ⟨given, some (name, field)⟩ =>
        match rest with
        | [] => .error (.noValue name)
        | value :: rest => (readWords rest).map (Words.after (given ++ [.value field value]))
    else (readWords rest).map fun words => { words with extra := word :: words.extra }

namespace Words

/-- A flag is given. -/
def has (words : Words) (flag : Flag) : Bool :=
  words.given.contains (.flag flag)

/-- All values of an option. -/
def values (words : Words) (field : Field) : List String :=
  words.given.filterMap fun
    | .value other value => if other = field then some value else none
    | .flag _ => none

/-- The last value of an option. -/
def last? (words : Words) (field : Field) : Option String :=
  (words.values field).getLast?

/-- The arguments about settings. -/
def arguments (words : Words) : Arguments where
  contractFile := words.last? .contractFile
  contractAddress := words.last? .contractAddress
  output := words.last? .output
  routesFile := words.last? .routesFile
  routes := words.values .route
  patterns := words.values .pattern
  schemaOutput := words.last? .schemaOutput
  compiler := words.last? .compiler

end Words

end RouteTypes.CommandLine
