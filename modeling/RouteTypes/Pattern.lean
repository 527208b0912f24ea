import RouteTypes.Pattern.Reader
import RouteTypes.Pattern.Search

/-!
# Compiled patterns

A pattern that has been read, with the text that it was read from.
-/

namespace RouteTypes

/-- A pattern: its text, its modes and its nodes. -/
structure Pattern where
  text : String
  modes : Pattern.Modes
  nodes : List Pattern.Node
  deriving Repr

namespace Pattern

/-- Reads the text of a pattern. -/
def ofText (text : String) : Except Fault Pattern := do
  let (modes, nodes) ← read text
  return ⟨text, modes, nodes⟩

/-- The pattern matches somewhere in a text. -/
def isIn (pattern : Pattern) (text : String) : Bool :=
  occursIn pattern.modes pattern.nodes text

end Pattern

end RouteTypes
