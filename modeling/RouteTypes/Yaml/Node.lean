import RouteTypes.Yaml.Tag
import RouteTypes.Yaml.Token

/-!
# Nodes of YAML

The tokens of a text form a tree of nodes: scalars, sequences and mappings, each with its tag.
A node that is named by an anchor stands again wherever an alias repeats the name.
-/

namespace RouteTypes.Yaml

/-- A node of a document. -/
inductive Node where
  | scalar (tag : Tag) (text : List Point)
  | sequence (tag : Tag) (items : List Node)
  | mapping (tag : Tag) (entries : List (Node × Node))

namespace Node

/-- The tag of a node. -/
def tag : Node → Tag
  | .scalar tag _ => tag
  | .sequence tag _ => tag
  | .mapping tag _ => tag

mutual

/-- The number of nodes on the longest way down from a node. -/
def depth : Node → Nat
  | .scalar _ _ => 1
  | .sequence _ items => depthItems items + 1
  | .mapping _ entries => depthEntries entries + 1

/-- The largest depth of some nodes. -/
def depthItems : List Node → Nat
  | [] => 0
  | item :: rest => max item.depth (depthItems rest)

/-- The largest depth of some keys and values. -/
def depthEntries : List (Node × Node) → Nat
  | [] => 0
  | (key, value) :: rest => max (max key.depth value.depth) (depthEntries rest)

end

/-- The node of a place where nothing is written. -/
def empty : Node := .scalar .null []

/-- The state of the composition of nodes: the tokens that are left, the handles of tags, and
the nodes that anchors name, where a node that is still being composed is absent. -/
structure State where
  tokens : List Token
  handles : List (List Char × List Char)
  anchors : List (List Char × Option Node)

/-- A step of the composition of nodes. -/
abbrev Compose := StateT State (Except Fault)

/-- Fails because the tokens form no node. -/
def malformed : Compose α := throw .malformed

/-- The next token, which must be readable. -/
def peek : Compose Token := do
  match (← get).tokens.headD .streamEnd with
  | .unreadable fault => throw fault
  | token => return token

/-- Moves behind the next token. -/
def advance : Compose Unit :=
  modify fun state => { state with tokens := state.tokens.drop 1 }

/-- The next token is one of the given ones. -/
def isNext (tokens : List Token) : Compose Bool := do
  return tokens.contains (← peek)

/-- Moves behind the next token, which must be the given one. -/
def expect (token : Token) : Compose Unit := do
  if (← peek) == token then advance else malformed

/-- The node that an anchor names. -/
def aliased (name : List Char) : Compose Node := do
  match (← get).anchors.lookup name with
  | some (some node) => return node
  | _ => malformed

/-- Introduces an anchor, which must be new. -/
def openAnchor (name : List Char) : Compose Unit := do
  if ((← get).anchors.lookup name).isSome then malformed
  else modify fun state => { state with anchors := (name, none) :: state.anchors }

/-- Sets the node that an anchor names. -/
def closeAnchor (name : List Char) (node : Node) : Compose Unit :=
  modify fun state => { state with anchors := (name, some node) :: state.anchors }

/-- The full name of a tag. -/
def tagName (raw : RawTag) : Compose (List Char) := do
  match raw.handle with
  | none => return raw.rest
  | some handle =>
    match (← get).handles.lookup handle with
    | some start => return start ++ raw.rest
    | none => malformed

/-- The anchor and the tag in front of a node. -/
structure Properties where
  anchor : Option (List Char)
  tag : Option (List Char)

/-- Reads the tag in front of a node. -/
def readTag : Compose (Option RawTag) := do
  match ← peek with
  | .tag raw => do advance; return some raw
  | _ => return none

/-- Reads the anchor in front of a node. -/
def readAnchor : Compose (Option (List Char)) := do
  match ← peek with
  | .anchor name => do advance; return some name
  | _ => return none

/-- Reads the anchor and the tag in front of a node, which stand in any order. -/
def properties : Compose Properties := do
  let first ← readAnchor
  let raw ← readTag
  let anchor ← if first.isNone && raw.isSome then readAnchor else pure first
  let tag ← match raw with
    | some raw => pure (some (← tagName raw))
    | none => pure none
  return ⟨anchor, tag⟩

/-- The tag of a collection. -/
def collectionTag (tag : Option (List Char)) (default : Tag) : Tag :=
  match tag with
  | some name => if name == ['!'] then default else Tag.ofName name
  | none => default

/-- The tag of a scalar. -/
def scalarTag (tag : Option (List Char)) (text : List Point) (plain : Bool) : Tag :=
  match tag with
  | some name => if name == ['!'] then Tag.ofPoints text else Tag.ofName name
  | none => if plain then Tag.ofPoints text else .text

mutual

/-- Composes a node. Inside of blocks it may be a block, and as the value of a mapping in a
block a sequence whose items are not indented. -/
def compose (inBlock unindented : Bool) : Nat → Compose Node
  | 0 => malformed
  | fuel + 1 => do
    match ← peek with
    | .alias name => do
      advance
      aliased name
    | _ => do
      let given ← properties
      if let some name := given.anchor then openAnchor name
      let node ← composeContent inBlock unindented given fuel
      if let some name := given.anchor then closeAnchor name node
      return node

/-- Composes a node behind its anchor and tag. -/
def composeContent (inBlock unindented : Bool) (given : Properties) : Nat → Compose Node
  | 0 => malformed
  | fuel + 1 => do
    match ← peek with
    | .scalar text plain => do
      advance
      return .scalar (scalarTag given.tag text plain) text
    | .flowSequence => do
      advance
      return .sequence (collectionTag given.tag .sequence) (← composeFlowItems true fuel)
    | .flowMapping => do
      advance
      return .mapping (collectionTag given.tag .mapping) (← composeFlowEntries true fuel)
    | token =>
      if unindented && token == .blockEntry then
        return .sequence (collectionTag given.tag .sequence) (← composeUnindented fuel)
      else if inBlock && token == .blockSequence then do
        advance
        return .sequence (collectionTag given.tag .sequence) (← composeItems fuel)
      else if inBlock && token == .blockMapping then do
        advance
        return .mapping (collectionTag given.tag .mapping) (← composeEntries fuel)
      else if given.anchor.isSome || given.tag.isSome then
        return .scalar (scalarTag given.tag [] true) []
      else malformed

/-- Composes a node, or takes the empty one in front of the given tokens. -/
def composeUnless (enders : List Token) (inBlock unindented : Bool) : Nat → Compose Node
  | 0 => malformed
  | fuel + 1 => do
    if ← isNext enders then return empty else compose inBlock unindented fuel

/-- Composes the items of a block sequence. -/
def composeItems : Nat → Compose (List Node)
  | 0 => malformed
  | fuel + 1 => do
    if (← peek) == .blockEntry then
      advance
      let item ← composeUnless [.blockEntry, .blockEnd] true false fuel
      return item :: (← composeItems fuel)
    else
      expect .blockEnd
      return []

/-- Composes the items of a sequence that is not indented. -/
def composeUnindented : Nat → Compose (List Node)
  | 0 => malformed
  | fuel + 1 => do
    if (← peek) == .blockEntry then
      advance
      let item ← composeUnless [.blockEntry, .key, .value, .blockEnd] true false fuel
      return item :: (← composeUnindented fuel)
    else return []

/-- Composes the value of an entry, which may be left out. -/
def composeValue (enders : List Token) (inBlock : Bool) : Nat → Compose Node
  | 0 => malformed
  | fuel + 1 => do
    if (← peek) == .value then
      advance
      composeUnless enders inBlock inBlock fuel
    else return empty

/-- Composes the entries of a block mapping. -/
def composeEntries : Nat → Compose (List (Node × Node))
  | 0 => malformed
  | fuel + 1 => do
    if (← peek) == .key then
      advance
      let key ← composeUnless [.key, .value, .blockEnd] true true fuel
      let value ← composeValue [.key, .value, .blockEnd] true fuel
      return (key, value) :: (← composeEntries fuel)
    else
      expect .blockEnd
      return []

/-- Composes the items of a flow sequence, each but the first behind a comma. An item with a
key is a mapping of one entry. -/
def composeFlowItems (first : Bool) : Nat → Compose (List Node)
  | 0 => malformed
  | fuel + 1 => do
    if (← peek) == .flowSequenceEnd then
      advance
      return []
    if !first then expect .flowEntry
    match ← peek with
    | .flowSequenceEnd => do
      advance
      return []
    | .key => do
      advance
      let key ← composeUnless [.value, .flowEntry, .flowSequenceEnd] false false fuel
      let value ← composeValue [.flowEntry, .flowSequenceEnd] false fuel
      return .mapping .mapping [(key, value)] :: (← composeFlowItems false fuel)
    | _ => do
      let item ← compose false false fuel
      return item :: (← composeFlowItems false fuel)

/-- Composes the entries of a flow mapping, each but the first behind a comma. An entry without
a value has the empty one. -/
def composeFlowEntries (first : Bool) : Nat → Compose (List (Node × Node))
  | 0 => malformed
  | fuel + 1 => do
    if (← peek) == .flowMappingEnd then
      advance
      return []
    if !first then expect .flowEntry
    match ← peek with
    | .flowMappingEnd => do
      advance
      return []
    | .key => do
      advance
      let key ← composeUnless [.value, .flowEntry, .flowMappingEnd] false false fuel
      let value ← composeValue [.flowEntry, .flowMappingEnd] false fuel
      return (key, value) :: (← composeFlowEntries false fuel)
    | _ => do
      let key ← compose false false fuel
      return (key, empty) :: (← composeFlowEntries false fuel)

end

/-- The handles that every document has unless it explains them itself. -/
def defaultHandles : List (List Char × List Char) :=
  [(['!'], ['!']), (['!', '!'], Tag.commonStart.toList)]

/-- Follows the directives in front of a document: at most one version, whose major number is
one, and handles that are all different. -/
def followDirectives (hasVersion : Bool) (handles : List (List Char × List Char)) :
    List Token → Except Fault (List (List Char × List Char) × List Token)
  | .directive (.version major) :: rest =>
    if hasVersion || major != 1 then .error .malformed else followDirectives true handles rest
  | .directive (.tag handle start) :: rest =>
    if (handles.lookup handle).isSome then .error .malformed
    else followDirectives hasVersion ((handle, start) :: handles) rest
  | .directive .unknown :: rest => followDirectives hasVersion handles rest
  | .unreadable fault :: _ => .error fault
  | rest => .ok (handles, rest)

/-- The token ends a document. -/
def endsDocument : Token → Bool
  | .directive _ => true
  | .documentStart => true
  | .documentEnd => true
  | .streamEnd => true
  | _ => false

/-- Composes the node of a document behind its start. -/
def composeDocument (explicit : Bool) : Compose Node := do
  let fuel := 4 * (← get).tokens.length + 4
  if explicit && endsDocument (← peek) then return empty
  let node ← compose true false fuel
  return node

/-- Requires that no further document follows. -/
def expectEnd : Compose Unit := do
  modify fun state => { state with tokens := state.tokens.dropWhile (· == .documentEnd) }
  expect .streamEnd

/-- The token starts a document that is announced, or there is no document. -/
def isAnnounced : Token → Bool
  | .directive _ => true
  | .documentStart => true
  | .streamEnd => true
  | _ => false

/-- The node that tokens form; none where the text holds no document. -/
def ofTokens? (tokens : List Token) : Except Fault (Option Node) := do
  let compose (explicit : Bool) (handles : List (List Char × List Char))
      (tokens : List Token) : Except Fault (Option Node) :=
    ((do let node ← composeDocument explicit; expectEnd; return some node) :
      Compose (Option Node)).run' ⟨tokens, handles ++ defaultHandles, []⟩
  match tokens with
  | [.streamEnd] => return none
  | .unreadable fault :: _ => throw fault
  | first :: _ =>
    if isAnnounced first then
      match ← followDirectives false [] tokens with
      | (handles, .documentStart :: rest) => compose true handles rest
      | _ => throw .malformed
    else compose false [] tokens
  | [] => throw .malformed

end Node

end RouteTypes.Yaml
