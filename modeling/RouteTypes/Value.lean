import RouteTypes.Calendar
import RouteTypes.Number.Reading
import RouteTypes.Number.Shortest
import RouteTypes.Text.Point

/-!
# Document values

The values that contract documents hold: scalars, lists, mappings, and what only one of the two
document formats can express (dates, timestamps, bytes, sets and tuples). The keys of mappings
are scalars. A mapping keeps its entries in the order of their first appearance. Texts with halves
of pairs are kept apart from other texts: no text of the program itself is one of them.
-/

namespace RouteTypes

/-- A value without parts. -/
inductive Scalar where
  | null
  | bool (value : Bool)
  | int (value : Int)
  | float (value : Binary64)
  | text (value : String)
  | broken (value : BrokenText)
  | date (value : Date)
  | timestamp (value : Timestamp)
  | bytes (value : Bytes)
  deriving DecidableEq, Repr

/-- A document value. -/
inductive Value where
  | scalar (value : Scalar)
  | list (items : List Value)
  | tuple (items : List Value)
  | set (items : List Scalar)
  | mapping (entries : List (Scalar × Value))
  deriving Repr

/-- The entries of a mapping. -/
abbrev Entries := List (Scalar × Value)

/-- The entries of a mapping all keys of which are texts. -/
abbrev Fields := List (String × Value)

namespace Scalar

/-- The text that some points form. -/
def ofPoints (points : List Point) : Scalar :=
  if broken : points.any Point.isHalf = true then .broken ⟨points, broken⟩
  else .text (String.ofList (points.map Point.toChar))

/-- Equality of keys. Truth values count as the numbers one and zero, and numbers are equal
when they have the same value, whatever their form. -/
def same : Scalar → Scalar → Bool
  | .null, .null => true
  | .bool left, .bool right => left == right
  | .bool left, .int right => right == left.toNat
  | .int left, .bool right => left == right.toNat
  | .bool left, .float right => right.sameInt left.toNat
  | .float left, .bool right => left.sameInt right.toNat
  | .int left, .int right => left == right
  | .int left, .float right => right.sameInt left
  | .float left, .int right => left.sameInt right
  | .float left, .float right => left.same right
  | .text left, .text right => left == right
  | .broken left, .broken right => left == right
  | .date left, .date right => left == right
  | .timestamp left, .timestamp right => Calendar.sameTime left right
  | .bytes left, .bytes right => left == right
  | _, _ => false

/-- The text of a scalar inside of other values. -/
def shown : Scalar → String
  | .null => "None"
  | .bool true => "True"
  | .bool false => "False"
  | .int value => toString value
  | .float value => value.shortestText
  | .text value => Text.quoted value
  | .broken value => value.quoted
  | .date value => value.shown
  | .timestamp value => value.shown
  | .bytes value => Text.quotedBytes value

/-- The text of a scalar that stands alone. -/
def display : Scalar → String
  | .text value => value
  | .broken value => value.text
  | .date value => value.text
  | .timestamp value => value.text " "
  | value => value.shown

/-- The scalar has a text. An integer that is too long has none, because converting it takes too
long. -/
def isShowable : Scalar → Bool
  | .int value => value.natAbs < Nat.pow 10 Number.maxDigits
  | _ => true

/-- No half of a pair stands alone in a scalar. -/
def isWhole : Scalar → Bool
  | .broken _ => false
  | _ => true

/-- The name of the kind of a scalar. -/
def kindName : Scalar → String
  | .null => "NoneType"
  | .bool _ => "bool"
  | .int _ => "int"
  | .float _ => "float"
  | .text _ => "str"
  | .broken _ => "str"
  | .date _ => "date"
  | .timestamp _ => "datetime"
  | .bytes _ => "bytes"

end Scalar

namespace Entries

/-- The value of a key. -/
def get? (entries : List (Scalar × α)) (key : Scalar) : Option α :=
  (entries.find? fun entry => entry.1.same key).map Prod.snd

/-- Sets the value of a key, which keeps its position, or adds the key at the end. -/
def put (entries : List (Scalar × α)) (key : Scalar) (value : α) : List (Scalar × α) :=
  match entries with
  | [] => [(key, value)]
  | entry :: rest =>
    if entry.1.same key then (entry.1, value) :: rest else entry :: put rest key value

/-- Sets the values of several keys one after the other. -/
def putAll (entries additions : List (Scalar × α)) : List (Scalar × α) :=
  additions.foldl (fun entries entry => put entries entry.1 entry.2) entries

end Entries

namespace Fields

variable {κ α : Type} [BEq κ]

/-- The value of a name. -/
def get? (fields : List (κ × α)) (name : κ) : Option α :=
  (fields.find? fun field => field.1 == name).map Prod.snd

/-- Sets the value of a name, which keeps its position, or adds the name at the end. -/
def put (fields : List (κ × α)) (name : κ) (value : α) : List (κ × α) :=
  match fields with
  | [] => [(name, value)]
  | field :: rest =>
    if field.1 == name then (field.1, value) :: rest else field :: put rest name value

/-- Sets the values of several names one after the other. -/
def putAll (fields additions : List (κ × α)) : List (κ × α) :=
  additions.foldl (fun fields field => put fields field.1 field.2) fields

/-- Removes a name. -/
def erase (fields : List (κ × α)) (name : κ) : List (κ × α) :=
  fields.filter fun field => !(field.1 == name)

end Fields

namespace Value

/-- A text as a value. -/
@[match_pattern] abbrev text (value : String) : Value := .scalar (.text value)

/-- The absent value. -/
@[match_pattern] abbrev null : Value := .scalar .null

/-- A truth value. -/
@[match_pattern] abbrev bool (value : Bool) : Value := .scalar (.bool value)

/-- An integer as a value. -/
@[match_pattern] abbrev int (value : Int) : Value := .scalar (.int value)

/-- A mapping from texts. -/
def ofFields (fields : Fields) : Value :=
  .mapping (fields.map fun field => (.text field.1, field.2))

/-- The value is the absent one. -/
def isNull : Value → Bool
  | .scalar .null => true
  | _ => false

/-- The value of a text key of a mapping. -/
def field? (value : Value) (name : String) : Option Value :=
  match value with
  | .mapping entries => Entries.get? entries (.text name)
  | _ => none

/-- The name of the kind of a value. -/
def kindName : Value → String
  | .scalar value => value.kindName
  | .list _ => "list"
  | .tuple _ => "tuple"
  | .set _ => "set"
  | .mapping _ => "dict"

mutual

/-- The text of a value inside of other values. -/
def shown : Value → String
  | .scalar value => value.shown
  | .list items => "[" ++ ", ".intercalate (shownItems items) ++ "]"
  | .tuple items =>
    "(" ++ ", ".intercalate (shownItems items) ++ (if items.length == 1 then ",)" else ")")
  | .set items =>
    if items.isEmpty then "set()"
    else "\x7b" ++ ", ".intercalate (items.map Scalar.shown) ++ "\x7d"
  | .mapping entries => "\x7b" ++ ", ".intercalate (shownEntries entries) ++ "\x7d"

/-- The texts of the items of a list. -/
def shownItems : List Value → List String
  | [] => []
  | item :: rest => item.shown :: shownItems rest

/-- The texts of the entries of a mapping. -/
def shownEntries : List (Scalar × Value) → List String
  | [] => []
  | (key, value) :: rest => (key.shown ++ ": " ++ value.shown) :: shownEntries rest

end

/-- The text of a value that stands alone. -/
def display : Value → String
  | .scalar value => value.display
  | value => value.shown

mutual

/-- The value has a text: so have all scalars in it. -/
def isShowable : Value → Bool
  | .scalar value => value.isShowable
  | .list items => areShowable items
  | .tuple items => areShowable items
  | .set items => items.all Scalar.isShowable
  | .mapping entries => areShowableEntries entries

/-- The items of a list have texts. -/
def areShowable : List Value → Bool
  | [] => true
  | item :: rest => item.isShowable && areShowable rest

/-- The entries of a mapping have texts. -/
def areShowableEntries : List (Scalar × Value) → Bool
  | [] => true
  | (key, value) :: rest => key.isShowable && value.isShowable && areShowableEntries rest

end

mutual

/-- No half of a pair stands alone in the texts and keys of a value. -/
def isWhole : Value → Bool
  | .scalar value => value.isWhole
  | .list items => areWhole items
  | .tuple items => areWhole items
  | .set items => items.all Scalar.isWhole
  | .mapping entries => entriesWhole entries

/-- No half of a pair stands alone in the items of a list. -/
def areWhole : List Value → Bool
  | [] => true
  | item :: rest => item.isWhole && areWhole rest

/-- No half of a pair stands alone in the entries of a mapping. -/
def entriesWhole : List (Scalar × Value) → Bool
  | [] => true
  | (key, value) :: rest => key.isWhole && value.isWhole && entriesWhole rest

end

end Value

end RouteTypes
