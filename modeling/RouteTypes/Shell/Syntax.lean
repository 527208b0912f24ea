/-!
# Shell commands

The commands of the command shell: words with quotes and expansions, redirections, lists,
pipelines, loops and conditions.
-/

namespace RouteTypes.Shell

mutual

/-- A part of a word. What an expansion gives is split into fields unless it is quoted. -/
inductive Piece where
  | plain (text : String)
  | quoted (text : String)
  | parameter (inQuotes : Bool) (name : String)
  | arithmetic (inQuotes : Bool) (expression : List Piece)
  | output (inQuotes : Bool) (command : Command)

/-- A change of the place where a command reads or writes. -/
inductive Redirect where
  | copy (descriptor source : Nat)
  | write (descriptor : Nat) (append : Bool) (path : List Piece)
  | read (path : List Piece)

/-- A command. -/
inductive Command where
  | nothing
  | simple (assignments : List (String × List Piece)) (words : List (List Piece))
      (redirects : List Redirect)
  | sequence (first second : Command)
  | both (first second : Command)
  | either (first second : Command)
  | negation (command : Command)
  | pipe (left right : Command)
  | loop (whilst : Bool) (condition body : Command)
  | choice (condition yes no : Command)
  | each (name : String) (words : List (List Piece)) (body : Command)
  | group (body : Command) (redirects : List Redirect)
  | apart (body : Command) (redirects : List Redirect)

end

/-- A word. -/
abbrev Word := List Piece

end RouteTypes.Shell
