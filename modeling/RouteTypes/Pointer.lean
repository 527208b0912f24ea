import RouteTypes.Text.Percent
import RouteTypes.Text.Split
import RouteTypes.Value

/-!
# Pointers into documents

A pointer is the fragment of a reference. Once percent-decoded it is empty, and selects the
whole document, or a sequence of segments with a slash in front of each. A segment selects the
entry of a mapping with that key or, read as a number, the item of a list.
-/

namespace RouteTypes.Pointer

/-- Why a pointer selects nothing. -/
inductive Fault where
  | noPointer
  | key (segment : String)
  | index (segment : String)
  | kind (name : String)
  deriving DecidableEq, Repr

/-- What the reader is told of a reference whose pointer selects nothing. -/
def Fault.message (reference : String) (fault : Fault) : String :=
  s!"Cannot resolve $ref '{reference}': " ++
    match fault with
    | .noPointer => "fragment must be a JSON Pointer"
    | .key segment => s!"key '{segment}' not found at path"
    | .index segment => s!"invalid array index '{segment}'"
    | .kind name => s!"cannot navigate into {name}"

/-- Undoes the escapes of the tilde and of the slash inside of a segment. -/
def unescape : List Char → List Char
  | '~' :: '1' :: rest => '/' :: unescape rest
  | '~' :: '0' :: rest => '~' :: unescape rest
  | c :: rest => c :: unescape rest
  | [] => []

/-- The item at an index; a negative one counts from the end. -/
def item? (items : List Value) (index : Int) : Option Value :=
  if 0 ≤ index then items[index.toNat]?
  else if index.natAbs ≤ items.length then items[items.length - index.natAbs]?
  else none

/-- What a segment selects. -/
def step (current : Value) (segment : String) : Except Fault Value :=
  match current with
  | .mapping entries =>
    match Entries.get? entries (.text segment) with
    | some value => .ok value
    | none => .error (.key segment)
  | .list items =>
    match Number.readInteger 10 segment with
    | .ok index =>
      match item? items index with
      | some value => .ok value
      | none => .error (.index segment)
    | .error _ => .error (.index segment)
  | value => .error (.kind value.kindName)

/-- The segments of a pointer that has been percent-decoded. -/
def segments? : List Char → Option (List String)
  | [] => some []
  | '/' :: rest =>
    some ((Text.splitOn '/' rest).map fun segment => String.ofList (unescape segment))
  | _ => none

/-- What a pointer selects in a document. -/
def resolve (document : Value) (pointer : String) : Except Fault Value :=
  match segments? (Text.percentDecode pointer).toList with
  | some segments => segments.foldlM step document
  | none => .error .noPointer

end RouteTypes.Pointer
