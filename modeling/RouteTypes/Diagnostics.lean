import RouteTypes.Program
import RouteTypes.Text.Emoji
import RouteTypes.Text.Wrap

/-!
# Diagnostics

What the user is told on the way goes to the error output, never to the output. Messages have
levels: information and success are left out on request, details are shown on request only,
warnings and errors are always shown. Unless plain messages are wanted, the names of emoji in them
are replaced, and they are wrapped to the width of the terminal.
-/

namespace RouteTypes

/-- The levels of messages. -/
inductive Level where
  | info
  | success
  | warning
  | error
  | debug
  deriving DecidableEq, Repr

/-- How messages are shown. -/
structure Diagnostics where
  plain : Bool
  quiet : Bool
  verbose : Bool
  width : Nat
  emoji : EmojiNames
  deriving DecidableEq, Repr

namespace Diagnostics

/-- The environment asks for plain messages. -/
def wantsPlain (environment : Environment) : Bool :=
  (environment.lookup "NO_COLOR").isSome || environment.lookup "TERM" == some "dumb"

/-- The width of a terminal that does not tell its own. -/
def defaultWidth : Nat := 80

/-- The width of the terminal, which the environment may give. -/
def widthOf (environment : Environment) : Nat :=
  match environment.lookup "COLUMNS" with
  | some text =>
    if !text.isEmpty && text.toList.all Char.isDigit then
      text.toList.foldl (fun number digit => number * 10 + (digit.toNat - '0'.toNat)) 0
    else defaultWidth
  | none => defaultWidth

/-- The ways to show messages that are asked for, in an environment and with the emoji that the
terminal library knows. -/
def create (environment : Environment) (emoji : EmojiNames) (plain quiet verbose : Bool) :
    Diagnostics :=
  ⟨plain || wantsPlain environment, quiet, verbose, widthOf environment, emoji⟩

/-- The ways to show messages where nothing is asked for. -/
def default (environment : Environment) (emoji : EmojiNames) : Diagnostics :=
  create environment emoji false false false

/-- Messages of the level are shown. -/
def shows (diagnostics : Diagnostics) : Level → Bool
  | .info => !diagnostics.quiet
  | .success => !diagnostics.quiet
  | .warning => true
  | .error => true
  | .debug => diagnostics.verbose

/-- A text laid out for the terminal, with what ends it. A terminal without columns shows
nothing. -/
def layOut (diagnostics : Diagnostics) (text ending : String) : String :=
  if diagnostics.plain then text ++ ending
  else if diagnostics.width == 0 then ""
  else
    let lines := Text.wrap diagnostics.width (Text.replaceEmoji diagnostics.emoji text).toList
    "\n".intercalate (lines.map String.ofList) ++ ending

/-- What is written for a message. -/
def render (diagnostics : Diagnostics) (level : Level) (message : String) : String :=
  if !diagnostics.shows level then ""
  else
    match level with
    | .warning => diagnostics.layOut "Warning:" " " ++ diagnostics.layOut message "\n"
    | .error => diagnostics.layOut "Error:" " " ++ diagnostics.layOut message "\n"
    | .debug => diagnostics.layOut ("[debug] " ++ message) "\n"
    | _ => diagnostics.layOut message "\n"

end Diagnostics

end RouteTypes
