import RouteTypes.Number.Reading
import RouteTypes.Value

/-!
# Faults of YAML documents

A text may be no YAML at all, or it may be YAML with a scalar that has no value: a number that
cannot be read, a date that is out of range, a truth value that is none, an escape that stands
for no character.
-/

namespace RouteTypes.Yaml

/-- Why a text has no value as a YAML document. -/
inductive Fault where
  | malformed
  | character (code : Nat)
  | number (fault : Number.Fault)
  | sixtieths
  | calendar (fault : Calendar.Fault)
  | truth (word : String)
  | empty
  | timestamp
  | timestampOf (kind : String)
  deriving DecidableEq, Repr

/-- What the reader of a document is told. -/
def Fault.message : Fault → String
  | .malformed => "malformed document"
  | .character code =>
    if code < Nat.pow 2 31 then "chr() arg not in range(0x110000)"
    else "Python int too large to convert to C int"
  | .number fault => fault.message
  | .sixtieths => "int too large to convert to float"
  | .calendar fault => fault.message
  | .truth word => Text.quoted word
  | .empty => "string index out of range"
  | .timestamp => "'NoneType' object has no attribute 'groupdict'"
  | .timestampOf kind => s!"expected string or bytes-like object, got '{kind}'"

end RouteTypes.Yaml
