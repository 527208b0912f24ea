import RouteTypes.Program
import RouteTypes.Text.Emoji
import RouteTypes.Web

/-!
# The host

Everything outside of the program that it may ask: files, web pages, the environment, standard
input, other programs, the name of the operating system and the emoji that the terminal library
knows. Only the files ever change.
-/

namespace RouteTypes

/-- What surrounds the program. -/
structure Host where
  files : FileSystem
  web : Web
  environment : Environment
  input : Bytes
  system : String
  emoji : EmojiNames
  programs : Programs

namespace Host

/-- The value of a variable of the environment. -/
def setting? (host : Host) (name : String) : Option String :=
  host.environment.lookup name

/-- The value of a variable that is set to something. -/
def filled? (host : Host) (name : String) : Option String :=
  match host.setting? name with
  | some value => if value == "" then none else some value
  | none => none

/-- The working directory. -/
def directory (host : Host) : FilePath :=
  ⟨"/", host.files.directory⟩

end Host

end RouteTypes
