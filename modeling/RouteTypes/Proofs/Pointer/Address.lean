import RouteTypes.Proofs.Pointer.Grammar
import RouteTypes.Proofs.Text.Percent

/-!
# Addresses of nodes

A path names a node of a document by the keys and positions that lead to it. Its address is the
pointer with a token for each of them: a key with its tildes and slashes escaped, a position in
decimal. Whichever of the address's characters are percent-encoded, so long as its percent signs
are, resolving it selects the node (`resolve_address`). The three layers do not get into each
other's way: what was decoded is not decoded again, an escaped slash parts no tokens, and each
escape in a token is undone once.
-/

namespace RouteTypes.Pointer

/-- A key of a mapping or a position in a list. -/
inductive Place where
  | key (name : String)
  | index (position : Nat)
  deriving DecidableEq, Repr

/-- What stands at a place of a value. -/
def Place.select? : Place → Value → Option Value
  | .key name, .mapping entries => Entries.get? entries (.text name)
  | .index position, .list items => items[position]?
  | _, _ => none

/-- The node of a document at the end of a path. -/
def node? (document : Value) (path : List Place) : Option Value :=
  path.foldlM (fun current place => place.select? current) document

/-- A key without bare tildes and slashes. -/
def escape (key : List Char) : List Char :=
  key.flatMap fun
    | '~' => ['~', '0']
    | '/' => ['~', '1']
    | c => [c]

/-- What a place is written as. -/
def Place.token : Place → List Char
  | .key name => escape name.toList
  | .index position => Nat.toDigits 10 position

/-- The pointer that is made of the tokens of a path. -/
def address (path : List Place) : List Char :=
  path.flatMap fun place => '/' :: place.token

theorem escaped_escape (key : List Char) : Escaped key (escape key) := by
  induction key with
  | nil => exact .nil
  | cons c rest ih =>
      rw [escape, List.flatMap_cons]
      split
      next => exact .tilde ih
      next => exact .slash ih
      next noTilde noSlash => exact .plain noTilde noSlash ih

theorem Escaped.not_mem {key token : List Char} (escaped : Escaped key token) : '/' ∉ token := by
  induction escaped with
  | nil => nofun
  | plain _ noSlash _ ih => simpa [ih] using Ne.symm noSlash
  | tilde _ ih => simpa using ih
  | slash _ ih => simpa using ih

theorem Place.not_mem_token (place : Place) : '/' ∉ place.token := by
  cases place with
  | key name => exact (escaped_escape name.toList).not_mem
  | index position => exact ne_mark_of_toDigits rfl

/-- An address has the tokens of its path. -/
theorem made_address (path : List Place) : Made (path.map Place.token) (address path) := by
  refine ⟨List.flatMap_map .., ?_⟩
  intro token member
  obtain ⟨place, _, rfl⟩ := List.mem_map.1 member
  exact place.not_mem_token

variable {document current next node : Value} {place : Place} {path : List Place}

@[simp] theorem node?_cons : node? document (place :: path) = some node ↔
    ∃ next, place.select? document = some next ∧ node? next path = some node := by
  rw [node?, List.foldlM_cons]
  exact Option.bind_eq_some_iff

/-- A place is selected by its token, by the standard. -/
theorem Place.standard (found : place.select? current = some next) :
    Standard place.token current next := by
  cases place with
  | key name =>
      cases current with
      | mapping entries => exact .entry (escaped_escape name.toList) found
      | scalar | list | tuple | set => cases found
  | index position =>
      cases current with
      | list items => exact .item found
      | scalar | mapping | tuple | set => cases found

/-- Each position in a list of the document can be read as a number. That is so of all lists that a
machine can hold, since only numbers of more than `Number.maxDigits` digits cannot be read. -/
def Countable (document : Value) : Prop :=
  ∀ path items, node? document path = some (.list items) → items.length ≤ 10 ^ Number.maxDigits

theorem countable_scalar (scalar : Scalar) : Countable (.scalar scalar) := by
  intro path items found
  cases path with
  | nil => cases found
  | cons place rest =>
      obtain ⟨next, first, _⟩ := node?_cons.1 found
      cases place <;> cases first

theorem countable_list {items : List Value} (short : items.length ≤ 10 ^ Number.maxDigits)
    (inner : ∀ item ∈ items, Countable item) : Countable (.list items) := by
  intro path others found
  cases path with
  | nil =>
      cases found
      exact short
  | cons place rest =>
      obtain ⟨next, first, further⟩ := node?_cons.1 found
      cases place with
      | key name => cases first
      | index position => exact inner next (List.mem_of_getElem? first) rest others further

theorem countable_mapping {entries : Entries} (inner : ∀ entry ∈ entries, Countable entry.2) :
    Countable (.mapping entries) := by
  intro path items found
  cases path with
  | nil => cases found
  | cons place rest =>
      obtain ⟨next, first, further⟩ := node?_cons.1 found
      cases place with
      | key name => exact inner _ (Entries.mem_of_get? first) rest items further
      | index position => cases first

theorem along_of_node? (countable : Countable document) (found : node? document path = some node) :
    Along Lax document (path.map Place.token) node := by
  induction path generalizing document with
  | nil =>
      cases found
      exact .here _
  | cons place rest ih =>
      obtain ⟨next, first, further⟩ := node?_cons.1 found
      refine .step ((Place.standard first).lax ?_) (ih ?_ further)
      · rintro items rfl
        exact countable [] items rfl
      · intro path items inner
        exact countable (place :: path) items (node?_cons.2 ⟨next, first, inner⟩)

/-- Every node of a document is what each percent-encoded form of its address selects. -/
theorem resolve_address {pointer : String} (countable : Countable document)
    (found : node? document path = some node)
    (encoded : Text.PercentForm (address path) pointer.toList) :
    resolve document pointer = .ok node := by
  have decoded : Text.percentDecode pointer = String.ofList (address path) :=
    Text.percentDecode_of_form (by rwa [String.toList_ofList])
  rw [resolve_eq_ok, decoded, String.toList_ofList]
  exact ⟨path.map Place.token, made_address path, along_of_node? countable found⟩

/-- A key with all the characters that are encoded or escaped, an empty key and a position. -/
theorem resolve_address_signs :
    let document : Value := .mapping
      [(.text "%~/é", .mapping [(.text "", .list [.text "a", .text "b"])])]
    address [.key "%~/é", .key "", .index 1] = "/%~0~1é//1".toList ∧
      resolve document "/%25%7E0%7E1%C3%A9//1" = .ok (.text "b") := by
  have encoded : Text.PercentForm (address [.key "%~/é", .key "", .index 1])
      (Text.percentEncode (fun c => c.isDigit || c == '/') "/%~0~1é//1".toList) :=
    Text.percentForm_percentEncode rfl _
  refine ⟨rfl, resolve_address ?_ rfl encoded⟩
  have short : 2 ≤ 10 ^ Number.maxDigits :=
    Nat.le_trans (by decide) (Nat.pow_le_pow_right (by decide) (by decide : 1 ≤ Number.maxDigits))
  refine countable_mapping (List.forall_mem_singleton.2 ?_)
  refine countable_mapping (List.forall_mem_singleton.2 ?_)
  refine countable_list short ?_
  rw [List.forall_mem_cons, List.forall_mem_singleton]
  exact ⟨countable_scalar _, countable_scalar _⟩

end RouteTypes.Pointer
