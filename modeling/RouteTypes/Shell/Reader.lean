import RouteTypes.Shell.Syntax

/-!
# Reading shell commands

A script is read character by character. The budget of the reader exceeds what the length of the
script can use up.
-/

namespace RouteTypes.Shell

/-- A step of the reader: what is left of the script, and the reason why it is no script. -/
abbrev Reader := StateT (List Char) (Except String)

/-- The reason why a script ends too early. -/
def endsEarly : String := "end of file unexpected"

/-- The reason why quotes do not end. -/
def endsInQuotes : String := "Unterminated quoted string"

/-- A blank between words. -/
def isGap (c : Char) : Bool :=
  c == ' ' || c == '\t'

/-- A character that ends a word. -/
def endsWord (c : Char) : Bool :=
  isGap c || c == '\n' || ";&|<>()".toList.contains c

/-- A character of the name of a variable. -/
def isNameChar (c : Char) : Bool :=
  c.isAlphanum || c == '_'

/-- A parameter whose name is one character. -/
def isSpecial (c : Char) : Bool :=
  c.isDigit || "#*@?$!".toList.contains c

/-- Drops a comment. -/
def dropComment : List Char → List Char
  | '#' :: rest => rest.dropWhile (· != '\n')
  | rest => rest

/-- Drops blanks and comments, also over continued lines. -/
def dropGaps : List Char → List Char
  | '\\' :: '\n' :: rest => dropGaps rest
  | c :: rest => if isGap c then dropGaps rest else dropComment (c :: rest)
  | [] => []

/-- Drops blanks, comments and ends of lines. -/
def dropLines (text : List Char) : Nat → List Char
  | 0 => text
  | count + 1 =>
    match dropGaps text with
    | '\n' :: rest => dropLines rest count
    | rest => rest

/-- The text in single quotes, and what follows. -/
def singleQuoted (text : List Char) : Except String (String × List Char) :=
  match text.dropWhile (· != '\'') with
  | [] => .error endsInQuotes
  | _ :: rest => .ok (String.ofList (text.takeWhile (· != '\'')), rest)

/-- The word that stands at the front of a text, if it is plain. -/
def plainWord (text : List Char) : String :=
  String.ofList (text.takeWhile fun c => !endsWord c)

/-- The text starts with a plain word. -/
def startsWithWord (word : String) (text : List Char) : Bool :=
  plainWord text == word

/-- Words that end a list of commands. -/
def closers : List String := ["then", "else", "elif", "fi", "do", "done", "\x7d"]

/-- The end of a list of commands. -/
def atEnd (text : List Char) : Bool :=
  match text with
  | [] => true
  | c :: _ => c == ')' || closers.contains (plainWord text)

/-- Takes a plain word that has to be there. -/
def expectWord (word : String) : Reader Unit := do
  let text := dropLines (← get) (← get).length
  if startsWithWord word text then set (text.drop word.length)
  else if text.isEmpty then throw s!"{endsEarly} (expecting \"{word}\")"
  else throw s!"\"{plainWord text}\" unexpected (expecting \"{word}\")"

/-- Takes a character that has to be there. -/
def expectChar (c : Char) : Reader Unit := do
  match dropLines (← get) (← get).length with
  | [] => throw s!"{endsEarly} (expecting \"{c}\")"
  | d :: rest =>
    if c == d then set rest
    else throw s!"\"{d}\" unexpected (expecting \"{c}\")"

/-- The name of a parameter behind a dollar sign. -/
def parameterName : List Char → Option (String × List Char)
  | '\x7b' :: rest =>
    match rest.dropWhile (· != '\x7d') with
    | [] => none
    | _ :: after => some (String.ofList (rest.takeWhile (· != '\x7d')), after)
  | c :: rest =>
    if isSpecial c then some (c.toString, rest)
    else if isNameChar c then
      some (String.ofList ((c :: rest).takeWhile isNameChar), (c :: rest).dropWhile isNameChar)
    else none
  | [] => none

/-- A name and what follows it, if an equals sign does. -/
def assignment? (text : List Char) : Option (String × List Char) :=
  let name := text.takeWhile isNameChar
  match text.dropWhile isNameChar with
  | '=' :: rest =>
    if name.isEmpty || name.head?.any Char.isDigit then none else some (String.ofList name, rest)
  | _ => none

/-- The descriptor in front of a redirection. -/
def descriptor? (text : List Char) : Option (Option Nat × List Char) :=
  let digits := text.takeWhile Char.isDigit
  match text.dropWhile Char.isDigit with
  | c :: rest =>
    if c == '<' || c == '>' then some ((String.ofList digits).toNat?, c :: rest) else none
  | [] => none

mutual

/-- Reads an expansion behind a dollar sign. -/
def expansion (inQuotes : Bool) : Nat → Reader Piece
  | 0 => throw endsEarly
  | budget + 1 => do
    match ← get with
    | '(' :: '(' :: rest => do
      set rest
      let expression ← quotedPieces [')', ')'] budget
      return .arithmetic inQuotes expression
    | '(' :: rest => do
      set rest
      let command ← list budget
      expectChar ')'
      return .output inQuotes command
    | text =>
      match parameterName text with
      | some (name, rest) =>
        set rest
        return .parameter inQuotes name
      | none => return .quoted "$"

/-- Reads the parts of a text up to and with an end mark, in which blanks have no meaning. -/
def quotedPieces (mark : List Char) : Nat → Reader Word
  | 0 => throw endsInQuotes
  | budget + 1 => do
    let text ← get
    if mark.isPrefixOf text then
      set (text.drop mark.length)
      return []
    match text with
    | [] => throw endsInQuotes
    | '\\' :: c :: rest => do
      set rest
      let piece := if c == '\n' then ""
        else if "$\x60\"\\".toList.contains c then c.toString
        else String.ofList ['\\', c]
      return .quoted piece :: (← quotedPieces mark budget)
    | '$' :: rest => do
      set rest
      let piece ← expansion true budget
      return piece :: (← quotedPieces mark budget)
    | c :: rest => do
      set rest
      return .quoted c.toString :: (← quotedPieces mark budget)

/-- Reads the parts of a word. -/
def pieces : Nat → Reader Word
  | 0 => throw endsEarly
  | budget + 1 => do
    match ← get with
    | [] => return []
    | '\'' :: rest => do
      let (text, rest) ← singleQuoted rest
      set rest
      return .quoted text :: (← pieces budget)
    | '"' :: rest => do
      set rest
      let inner ← quotedPieces ['"'] budget
      return .quoted "" :: inner ++ (← pieces budget)
    | '\\' :: '\n' :: rest => do
      set rest
      pieces budget
    | '\\' :: c :: rest => do
      set rest
      return .quoted c.toString :: (← pieces budget)
    | '$' :: rest => do
      set rest
      let piece ← expansion false budget
      return piece :: (← pieces budget)
    | c :: rest => do
      if endsWord c then return []
      set rest
      return .plain c.toString :: (← pieces budget)

/-- Reads a redirection whose descriptor is given. -/
def redirect (descriptor : Option Nat) : Nat → Reader Redirect
  | 0 => throw endsEarly
  | budget + 1 => do
    match ← get with
    | '>' :: '&' :: c :: rest => do
      set rest
      return .copy (descriptor.getD 1) (c.toNat - 48)
    | '>' :: '>' :: rest => do
      set (dropGaps rest)
      return .write (descriptor.getD 1) true (← pieces budget)
    | '>' :: rest => do
      set (dropGaps rest)
      return .write (descriptor.getD 1) false (← pieces budget)
    | text => do
      set (dropGaps (text.drop 1))
      return .read (← pieces budget)

/-- Reads the redirections behind a compound command. -/
def redirects : Nat → Reader (List Redirect)
  | 0 => throw endsEarly
  | budget + 1 => do
    let text := dropGaps (← get)
    match descriptor? text with
    | some (descriptor, rest) => do
      set rest
      let first ← redirect descriptor budget
      return first :: (← redirects budget)
    | none => return []

/-- Reads the rest of a simple command. -/
def simple (assignments : List (String × Word)) (words : List Word) (changes : List Redirect) :
    Nat → Reader Command
  | 0 => throw endsEarly
  | budget + 1 => do
    let text := dropGaps (← get)
    set text
    let done := Command.simple assignments.reverse words.reverse changes.reverse
    match text with
    | [] => return done
    | c :: _ =>
      match descriptor? text with
      | some (descriptor, rest) => do
        set rest
        let change ← redirect descriptor budget
        simple assignments words (change :: changes) budget
      | none =>
        if endsWord c then return done
        match words.isEmpty, assignment? text with
        | true, some (name, rest) => do
          set rest
          let value ← pieces budget
          simple ((name, value) :: assignments) words changes budget
        | _, _ => do
          let word ← pieces budget
          simple assignments (word :: words) changes budget

/-- Reads a command. -/
def command : Nat → Reader Command
  | 0 => throw endsEarly
  | budget + 1 => do
    let text := dropGaps (← get)
    set text
    match text, plainWord text with
    | '(' :: rest, _ => do
      set rest
      let body ← list budget
      expectChar ')'
      return .apart body (← redirects budget)
    | _, "\x7b" => do
      set (text.drop 1)
      let body ← list budget
      expectWord "\x7d"
      return .group body (← redirects budget)
    | _, "if" => do
      set (text.drop 2)
      condition budget
    | _, "while" => do
      set (text.drop 5)
      loopFrom true budget
    | _, "until" => do
      set (text.drop 5)
      loopFrom false budget
    | _, "for" => do
      set (text.drop 3)
      let text := dropGaps (← get)
      let name := plainWord text
      set (text.drop name.length)
      expectWord "in"
      let values ← simple [] [] [] budget
      match dropGaps (← get) with
      | ';' :: rest => set rest
      | rest => set rest
      expectWord "do"
      let body ← list budget
      expectWord "done"
      match values with
      | .simple _ words _ => return .group (.each name words body) (← redirects budget)
      | _ => throw endsEarly
    | _, _ => simple [] [] [] budget

/-- Reads a condition behind its first word. -/
def condition : Nat → Reader Command
  | 0 => throw endsEarly
  | budget + 1 => do
    let test ← list budget
    expectWord "then"
    let yes ← list budget
    let text := dropLines (← get) (← get).length
    match plainWord text with
    | "elif" => do
      set (text.drop 4)
      return .choice test yes (← condition budget)
    | "else" => do
      set (text.drop 4)
      let no ← list budget
      expectWord "fi"
      return .group (.choice test yes no) (← redirects budget)
    | _ => do
      expectWord "fi"
      return .group (.choice test yes .nothing) (← redirects budget)

/-- Reads a loop behind its first word. -/
def loopFrom (whilst : Bool) : Nat → Reader Command
  | 0 => throw endsEarly
  | budget + 1 => do
    let test ← list budget
    expectWord "do"
    let body ← list budget
    expectWord "done"
    return .group (.loop whilst test body) (← redirects budget)

/-- Reads commands with pipes between them. -/
def pipeline : Nat → Reader Command
  | 0 => throw endsEarly
  | budget + 1 => do
    let text := dropGaps (← get)
    if startsWithWord "!" text then
      set (text.drop 1)
      return .negation (← pipeline budget)
    let first ← command budget
    match dropGaps (← get) with
    | '|' :: '|' :: _ => return first
    | '|' :: rest => do
      set (dropLines rest rest.length)
      return .pipe first (← pipeline budget)
    | _ => return first

/-- Reads the pipelines behind one, each of which depends on what is before it. -/
def dependent (first : Command) : Nat → Reader Command
  | 0 => throw endsEarly
  | budget + 1 => do
    match dropGaps (← get) with
    | '&' :: '&' :: rest => do
      set (dropLines rest rest.length)
      let second ← pipeline budget
      dependent (.both first second) budget
    | '|' :: '|' :: rest => do
      set (dropLines rest rest.length)
      let second ← pipeline budget
      dependent (.either first second) budget
    | rest => do
      set rest
      return first

/-- Reads a list of commands up to its end. -/
def list : Nat → Reader Command
  | 0 => throw endsEarly
  | budget + 1 => do
    let text := dropLines (← get) (← get).length
    set text
    if atEnd text then return .nothing
    let first ← pipeline budget
    let first ← dependent first budget
    match dropGaps (← get) with
    | ';' :: rest => do
      set rest
      return .sequence first (← list budget)
    | '&' :: rest => do
      set rest
      return .sequence first (← list budget)
    | '\n' :: rest => do
      set rest
      return .sequence first (← list budget)
    | _ => return first

end

/-- Reads a script. -/
def read (script : String) : Except String Command :=
  let text := script.toList
  match (list (8 * text.length + 16)).run text with
  | .error reason => .error reason
  | .ok (command, rest) =>
    match dropLines rest rest.length with
    | [] => .ok command
    | c :: rest =>
      let found := if endsWord c then c.toString else plainWord (c :: rest)
      .error s!"\"{found}\" unexpected"

end RouteTypes.Shell
