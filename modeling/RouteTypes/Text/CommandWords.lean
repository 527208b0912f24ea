/-!
# Words of a command

A command in one line is split into words at spaces, tabs and line ends. Single quotes take
everything up to the next one as it stands. In double quotes a backslash protects only a quote
and a backslash, elsewhere it protects any character. Nothing else has a meaning.
-/

namespace RouteTypes.Text

/-- Why a line is no command. -/
inductive CommandFault where
  | openQuote
  | openEscape
  deriving DecidableEq, Repr

/-- What the writer of a command is told. -/
def CommandFault.message : CommandFault → String
  | .openQuote => "No closing quotation"
  | .openEscape => "No escaped character"

/-- Where the next character of a command stands. -/
inductive CommandPlace where
  | between
  | word
  | quoted (mark : Char)
  | escaped
  | quotedEscaped
  deriving DecidableEq, Repr

/-- A character between words. -/
def isCommandSpace (c : Char) : Bool :=
  c == ' ' || c == '\t' || c == '\n' || c == '\r'

/-- The words of which the first begins with a character. -/
def extendFirst (c : Char) : List (List Char) → List (List Char)
  | [] => [[c]]
  | word :: words => (c :: word) :: words

/-- The words of the rest of a command. Inside of a word the first of them is the rest of it. -/
def commandWordsFrom : CommandPlace → List Char → Except CommandFault (List (List Char))
  | .between, [] => .ok []
  | .word, [] => .ok [[]]
  | .quoted _, [] => .error .openQuote
  | .escaped, [] => .error .openEscape
  | .quotedEscaped, [] => .error .openEscape
  | .between, c :: rest =>
    if isCommandSpace c then commandWordsFrom .between rest
    else if c == '\\' then commandWordsFrom .escaped rest
    else if c == '\'' || c == '"' then commandWordsFrom (.quoted c) rest
    else extendFirst c <$> commandWordsFrom .word rest
  | .word, c :: rest =>
    if isCommandSpace c then ([] :: ·) <$> commandWordsFrom .between rest
    else if c == '\\' then commandWordsFrom .escaped rest
    else if c == '\'' || c == '"' then commandWordsFrom (.quoted c) rest
    else extendFirst c <$> commandWordsFrom .word rest
  | .quoted mark, c :: rest =>
    if c == mark then commandWordsFrom .word rest
    else if c == '\\' && mark == '"' then commandWordsFrom .quotedEscaped rest
    else extendFirst c <$> commandWordsFrom (.quoted mark) rest
  | .escaped, c :: rest => extendFirst c <$> commandWordsFrom .word rest
  | .quotedEscaped, c :: rest => do
    let words ← extendFirst c <$> commandWordsFrom (.quoted '"') rest
    return if c == '\\' || c == '"' then words else extendFirst '\\' words

/-- The words of a command. -/
def commandWords (line : String) : Except CommandFault (List String) := do
  return (← commandWordsFrom .between line.toList).map String.ofList

end RouteTypes.Text
