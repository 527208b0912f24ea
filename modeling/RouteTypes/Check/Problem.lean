import RouteTypes.Value

/-!
# Problems of a value

A value that does not have the expected shape has problems, each at a location: the names and
positions on the way to it. A check gives the shaped value or all problems, in the order of the
declaration of the shape.
-/

namespace RouteTypes.Check

/-- A step on the way to a part of a value. -/
inductive Part where
  | name (text : String)
  | position (index : Int)
  deriving DecidableEq, Repr

/-- What is wrong with a value. -/
inductive Kind where
  | missing
  | text
  | unicode
  | truth
  | truthText
  | choice (choices : List String)
  | mapping
  | list
  | record (name : String)
  | key
  | integer
  | integerText
  | integerFraction
  | number
  | numberText
  | unshowable
  deriving DecidableEq, Repr

/-- A problem at a location. -/
structure Problem where
  location : List Part
  kind : Kind
  deriving DecidableEq, Repr

/-- The code of a problem. -/
def Kind.code : Kind → String
  | .missing => "missing"
  | .text => "string_type"
  | .unicode => "string_unicode"
  | .truth => "bool_type"
  | .truthText => "bool_parsing"
  | .choice _ => "enum"
  | .mapping => "dict_type"
  | .list => "list_type"
  | .record _ => "model_type"
  | .key => "invalid_key"
  | .integer => "int_type"
  | .integerText => "int_parsing"
  | .integerFraction => "int_from_float"
  | .number => "float_type"
  | .numberText => "float_parsing"
  | .unshowable => "value_error"

/-- Several texts in quotes, the last one after a word instead of a comma. -/
def alternatives (choices : List String) : String :=
  let shown := choices.map fun choice => "'" ++ choice ++ "'"
  match shown.getLast? with
  | none => ""
  | some last =>
    if shown.length = 1 then last else ", ".intercalate shown.dropLast ++ " or " ++ last

/-- What the user is told about a problem. -/
def Kind.message : Kind → String
  | .missing => "Field required"
  | .text => "Input should be a valid string"
  | .unicode => "Input should be a valid string, unable to parse raw data as a unicode string"
  | .truth => "Input should be a valid boolean"
  | .truthText => "Input should be a valid boolean, unable to interpret input"
  | .choice choices => "Input should be " ++ alternatives choices
  | .mapping => "Input should be a valid dictionary"
  | .list => "Input should be a valid list"
  | .record name => s!"Input should be a valid dictionary or instance of {name}"
  | .key => "Keys should be strings"
  | .integer => "Input should be a valid integer"
  | .integerText => "Input should be a valid integer, unable to parse string as an integer"
  | .integerFraction =>
    "Input should be a valid integer, got a number with a fractional part"
  | .number => "Input should be a valid number"
  | .numberText => "Input should be a valid number, unable to parse string as a number"
  | .unshowable => "Value error, " ++ Number.unshowable

/-- The location of a problem as it is shown. -/
def Problem.locationText (problem : Problem) : String :=
  ".".intercalate (problem.location.map fun part =>
    match part with
    | .name text => text
    | .position index => toString index)

/-- The report on the problems of a value of the given kind. -/
def report (name : String) (problems : List Problem) : String :=
  let count := problems.length
  s!"{count} validation error" ++ (if count = 1 then "" else "s") ++ s!" for {name}" ++
    String.join (problems.map fun problem =>
      s!"\n{problem.locationText}\n  {problem.kind.message} [type={problem.kind.code}]")

end RouteTypes.Check

namespace RouteTypes

/-- A checked value, or its problems. -/
abbrev Checked (α : Type) := Except (List Check.Problem) α

namespace Checked

/-- A problem with the value as a whole. -/
def fail (kind : Check.Kind) : Checked α := .error [⟨[], kind⟩]

/-- The check concerns a part of a value. -/
def within (part : Check.Part) (checked : Checked α) : Checked α :=
  checked.mapError fun problems =>
    problems.map fun problem => { problem with location := part :: problem.location }

/-- Both values, or the problems of both. -/
def both (left : Checked α) (right : Checked β) : Checked (α × β) :=
  match left, right with
  | .ok left, .ok right => .ok (left, right)
  | .error problems, .ok _ => .error problems
  | .ok _, .error problems => .error problems
  | .error problems, .error problems' => .error (problems ++ problems')

/-- All values, or the problems of all. -/
def all : List (Checked α) → Checked (List α)
  | [] => .ok []
  | checked :: rest => (both checked (all rest)).map fun (value, values) => value :: values

end Checked

end RouteTypes
