import RouteTypes.Location
import RouteTypes.Pointer

/-!
# References

A mapping with a text under the key `$ref` refers to a value of this or another document. The
text is a location and a pointer; without a location the reference stays inside of its document.
Resolving a document puts the value in the place of each reference, resolved in turn; the other
keys of the referring mapping are laid over a value that is a mapping.

On the way into references every pair of a location and a pointer is remembered. A reference to
a pair that is being resolved already is left as it stands, so a document that refers to itself
is resolved up to the place where it starts over.

The traversal of one value is structural (`resolveTree`). Following a reference goes to a value
that need not be smaller, so the number of references that are followed into each other is
bounded by an argument of `expand`. How documents are loaded is left open, and so are the effects
of loading: `withCache` loads each location once, `withoutCache` every time, and `direct` keeps
no account of what is loaded.
-/

namespace RouteTypes.Reference

/-- Why a document could not be resolved. -/
inductive Fault (ε : Type) where
  | pointer (reference : String) (fault : Pointer.Fault)
  | address (fault : Url.Fault)
  | load (fault : ε)
  | tooDeep

/-- The key under which a mapping refers to a value. -/
def referenceKey : Scalar := .text "$ref"

/-- The text of a reference. Halves of pairs are replaced in it: nothing is found under them. -/
def textOf? : Value → Option String
  | .scalar (.text reference) => some reference
  | .scalar (.broken reference) => some reference.repaired
  | _ => none

/-- What a mapping refers to. -/
def reference? (entries : Entries) : Option String :=
  (Entries.get? entries referenceKey).bind textOf?

/-- The entries of a mapping beside its reference. -/
def siblings (entries : Entries) : Entries :=
  entries.filter fun entry => !entry.1.same referenceKey

/-- The location and the pointer of a reference. -/
def split (reference : String) : String × String :=
  let (location, pointer) := Text.cut '#' reference.toList
  (String.ofList location, String.ofList (pointer.getD []))

/-- The pair of a location and a pointer as it is remembered. -/
def mark (location : Option String) (pointer : String) : String :=
  location.getD "" ++ "#" ++ pointer

/-- The document that a value belongs to, and its location. -/
structure Scope where
  root : Value
  location : Option String

/-- Lays the resolved siblings of a reference over the value it refers to. -/
def overlay (target : Value) (extra : Entries) : Value :=
  match target with
  | .mapping entries => .mapping (Entries.putAll entries extra)
  | other => other

section Traversal

variable {m : Type → Type} [Monad m]

mutual

/-- Resolves the references inside of a value. `expand` gives the resolved value of a reference,
or nothing where the reference is to be left. -/
def resolveTree (expand : String → m (Option Value)) : Value → m Value
  | .mapping entries =>
    match reference? entries with
    | none => Value.mapping <$> resolveEntries expand entries
    | some reference => do
      match ← expand reference with
      | none => pure (.mapping entries)
      | some (.mapping target) =>
        if (siblings entries).isEmpty then pure (.mapping target)
        else overlay (.mapping target) <$> resolveSiblings expand entries
      | some target => pure target
  | .list items => Value.list <$> resolveItems expand items
  | .scalar value => pure (.scalar value)
  | .tuple items => pure (.tuple items)
  | .set items => pure (.set items)

/-- Resolves the references inside of the items of a list. -/
def resolveItems (expand : String → m (Option Value)) : List Value → m (List Value)
  | [] => pure []
  | item :: rest => do
    let item ← resolveTree expand item
    let rest ← resolveItems expand rest
    pure (item :: rest)

/-- Resolves the references inside of the values of a mapping. -/
def resolveEntries (expand : String → m (Option Value)) :
    List (Scalar × Value) → m (List (Scalar × Value))
  | [] => pure []
  | (key, value) :: rest => do
    let value ← resolveTree expand value
    let rest ← resolveEntries expand rest
    pure ((key, value) :: rest)

/-- Resolves the references inside of the values beside a reference. -/
def resolveSiblings (expand : String → m (Option Value)) :
    List (Scalar × Value) → m (List (Scalar × Value))
  | [] => pure []
  | (key, value) :: rest =>
    if key.same referenceKey then resolveSiblings expand rest
    else do
      let value ← resolveTree expand value
      let rest ← resolveSiblings expand rest
      pure ((key, value) :: rest)

end

end Traversal

/-- A step of the resolution of a document, with effects and failures of loading. -/
abbrev Resolve (m : Type → Type) (ε : Type) := ExceptT (Fault ε) m

section Following

variable {m : Type → Type} [Monad m]

/-- Fails where a partial result is a fault. -/
def lift (result : Except (Fault ε) α) : Resolve m ε α :=
  match result with
  | .ok value => pure value
  | .error fault => throw fault

/-- The document that a location leads to from a scope. -/
def enter (load : String → Resolve m ε Value) (scope : Scope) (location : String) :
    Resolve m ε Scope := do
  if location == "" then return scope
  let target ← lift ((Location.join scope.location location).mapError .address)
  return ⟨← load target, some target⟩

/-- The resolved value of a reference in a scope, or nothing where the reference is to be left.
The pairs in `seen` are being resolved. At most `depth` references are followed into each
other. -/
def expand (load : String → Resolve m ε Value) :
    Nat → Scope → List String → String → Resolve m ε (Option Value)
  | 0, _, _, _ => throw .tooDeep
  | depth + 1, scope, seen, reference => do
    let (location, pointer) := split reference
    let target ← enter load scope location
    let key := mark target.location pointer
    if seen.contains key then return none
    let value ← lift ((Pointer.resolve target.root pointer).mapError (.pointer reference))
    some <$> resolveTree (expand load depth target (key :: seen)) value

/-- Resolves the references inside of a value of a scope. -/
def resolve (load : String → Resolve m ε Value) (depth : Nat) (scope : Scope)
    (seen : List String) (value : Value) : Resolve m ε Value :=
  resolveTree (expand load depth scope seen) value

end Following

/-- The documents that have been loaded, and the locations in the order of loading. -/
structure Cache where
  documents : List (String × Value)
  loads : List String

/-- Loads a document unless it has been loaded before. -/
def withCache (fetch : String → Except ε Value) (location : String) :
    Resolve (StateM Cache) ε Value := do
  match (← get).documents.lookup location with
  | some document => return document
  | none =>
    modify fun cache => { cache with loads := cache.loads ++ [location] }
    let document ← lift ((fetch location).mapError .load)
    modify fun cache => { cache with documents := (location, document) :: cache.documents }
    return document

/-- Loads a document every time. -/
def withoutCache (fetch : String → Except ε Value) (location : String) :
    Resolve (StateM (List String)) ε Value := do
  modify (· ++ [location])
  lift ((fetch location).mapError .load)

/-- Loads a document and keeps no account of it. -/
def direct (fetch : String → Except ε Value) (location : String) : Resolve Id ε Value :=
  lift ((fetch location).mapError .load)

/-- How many references are followed into each other at most. -/
def depthLimit : Nat := 1000

/-- What came of resolving a document, and the locations that were loaded, in order. -/
structure Outcome (ε : Type) where
  result : Except (Fault ε) Value
  loads : List String

/-- Resolves all references of a document, whose location may be known. -/
def dereference (fetch : String → Except ε Value) (depth : Nat) (document : Value)
    (location : Option String) : Outcome ε :=
  let (result, cache) :=
    (resolve (withCache fetch) depth ⟨document, location⟩ [] document).run.run ⟨[], []⟩
  ⟨result, cache.loads⟩

/-- What the user is told when a document could not be resolved. -/
def Fault.message (loadMessage : ε → String) : Fault ε → String
  | .pointer reference fault => fault.message reference
  | .address fault => fault.message
  | .load fault => loadMessage fault
  | .tooDeep => "maximum recursion depth exceeded"

end RouteTypes.Reference
