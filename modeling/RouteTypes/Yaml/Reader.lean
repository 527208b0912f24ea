import RouteTypes.Yaml.Scalar

/-!
# Reading YAML

`Yaml.read` gives the value of the one document that a text holds, or the absent value where it
holds none.

Where several nodes of a document have no value, the fault of the one nearest to the root is
reported, and of equally near ones that of the first. Nodes are therefore built with the depth
at which each fault stands.
-/

namespace RouteTypes.Yaml

/-- The outcome of building a part of a document: a fault comes with its depth. -/
abbrev Built (α : Type) := Except (Nat × Fault) α

namespace Built

/-- Both parts, or the fault that stands higher, of equally high ones the first. -/
def both (left : Built α) (right : Built β) : Built (α × β) :=
  match left, right with
  | .ok left, .ok right => .ok (left, right)
  | .error fault, .ok _ => .error fault
  | .ok _, .error fault => .error fault
  | .error fault, .error fault' => .error (if fault'.1 < fault.1 then fault' else fault)

/-- All parts, or the fault that stands highest. -/
def all : List (Built α) → Built (List α)
  | [] => .ok []
  | part :: rest => (both part (all rest)).map fun (value, values) => value :: values

end Built

namespace Node

/-- The text of a scalar. A mapping with the key of the default value counts as that value. -/
def scalarText? : Node → Option (List Point)
  | .scalar _ text => some text
  | .mapping _ entries => defaultText? entries
  | .sequence _ _ => none
where
  /-- The text of the default value among some entries. -/
  defaultText? : List (Node × Node) → Option (List Point)
    | [] => none
    | (key, value) :: rest => if key.tag == .value then value.scalarText? else defaultText? rest

/-- The key of the default value becomes a string where it stands in a mapping. -/
def plainKey : Node → Node
  | .scalar .value text => .scalar .text text
  | .sequence .value items => .sequence .text items
  | .mapping .value entries => .mapping .text entries
  | key => key

/-- The entries of a mapping with those of the mappings that it merges in front of its own. -/
def flatten : Nat → List (Node × Node) → Except Fault (List (Node × Node))
  | 0, entries => .ok entries
  | fuel + 1, entries => do
    let merged ← (entries.filter fun entry => entry.1.tag == .merge).mapM fun entry =>
      match entry.2 with
      | .mapping _ inner => flatten fuel inner
      | .sequence _ items => do
        let parts ← items.mapM fun item =>
          match item with
          | .mapping _ inner => flatten fuel inner
          | _ => .error .malformed
        return parts.reverse.flatten
      | .scalar _ _ => .error .malformed
    let own := (entries.filter fun entry => entry.1.tag != .merge).map fun entry =>
      (entry.1.plainKey, entry.2)
    return merged.flatten ++ own

/-- The tag stands for a collection. -/
def isCollection : Tag → Bool
  | .sequence | .mapping | .set | .orderedMapping | .pairs => true
  | _ => false

/-- The value of a node with the tag of a scalar. -/
def scalarValue (node : Node) : Except Fault RouteTypes.Scalar :=
  match node.scalarText? with
  | none => .error .malformed
  | some text =>
    match node.tag, node with
    | .timestamp, .mapping _ _ => .error (.timestampOf "list")
    | tag, _ => Scalar.value tag text

/-- The key of an entry, which has to be a scalar. -/
def keyValue (depth : Nat) (key : Node) : Built RouteTypes.Scalar :=
  if isCollection key.tag then .error (depth, .malformed)
  else key.scalarValue.mapError (depth, ·)

/-- The value of a node at a depth. -/
def build : Nat → Nat → Node → Built Value
  | 0, depth, _ => .error (depth, .malformed)
  | fuel + 1, depth, node =>
    let inner := depth + 1
    let entriesOf (entries : List (Node × Node)) : Built Entries :=
      match flatten fuel entries with
      | .error fault => .error (inner, fault)
      | .ok entries =>
        (Built.all (entries.map fun entry =>
          Built.both (keyValue inner entry.1) (build fuel inner entry.2))).map fun entries =>
            Entries.putAll [] entries
    let pairOf (item : Node) : Built Value :=
      match item with
      | .mapping _ [entry] =>
        (Built.both (build fuel inner entry.1) (build fuel inner entry.2)).map
          fun (key, value) => .tuple [key, value]
      | _ => .error (inner, .malformed)
    if isCollection node.tag then
      match node with
      | .sequence .sequence items => .list <$> Built.all (items.map (build fuel inner))
      | .sequence .orderedMapping items => .list <$> Built.all (items.map pairOf)
      | .sequence .pairs items => .list <$> Built.all (items.map pairOf)
      | .mapping .mapping entries => .mapping <$> entriesOf entries
      | .mapping .set entries => (fun entries => .set (entries.map Prod.fst)) <$> entriesOf entries
      | _ => .error (inner, .malformed)
    else (node.scalarValue.map .scalar).mapError (depth, ·)

end Node

/-- The value of the document that a text holds. -/
def read (text : String) : Except Fault Value := do
  match ← Node.ofTokens? (Token.scan text.toList) with
  | none => return .null
  | some node => (node.build (node.depth + 1) 0).mapError Prod.snd

end RouteTypes.Yaml
