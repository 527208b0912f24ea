import RouteTypes.Proofs.Location
import RouteTypes.Proofs.Reference.Remaining

/-!
# What remaining references mean

A reference that remains keeps its text, but it stands in the resolved document then, and is read
from there. It still designates what it did where it was written exactly if its location leads to
the same document from both (`dereference_designates`). References without a location do so only
where they were written in the document that is resolved, and relative ones only between documents
in the same directory (`sameTarget_between_files`), so a reference into another document can lose
its meaning (`inlined_reference_changes`).
-/

namespace RouteTypes.Reference

open Value

variable {ε : Type} {fetch : String → Except ε Value} {scope other target : Scope}
variable {reference : String} {value : Value}

/-- The document and the value that a reference of a document designates. -/
def designated (fetch : String → Except ε Value) (scope : Scope) (reference : String) :
    Resolve Id ε (Scope × Value) := do
  let target ← enter (direct fetch) scope (split reference).1
  let value ← lift
    ((Pointer.resolve target.root (split reference).2).mapError (.pointer reference))
  return (target, value)

theorem designated_eq_ok : designated fetch scope reference = Except.ok (target, value) ↔
    enter (direct fetch) scope (split reference).1 = Except.ok target ∧
      Pointer.resolve target.root (split reference).2 = .ok value := by
  simp only [designated, bind_eq_ok, lift_mapError_eq_ok, pure_eq_ok, Prod.mk.injEq]
  constructor
  · intro given
    obtain ⟨_, entered, _, selected, rfl, rfl⟩ := given
    exact ⟨entered, selected⟩
  · intro given
    exact ⟨target, given.1, value, given.2, rfl, rfl⟩

/-- A location leads to the same document from two documents. -/
def SameTarget (scope other : Scope) (location : String) : Prop :=
  if location = "" then scope = other
  else Location.join scope.location location = Location.join other.location location

/-- Where its location leads to the same document, a reference designates the same. -/
theorem SameTarget.designated_eq (same : SameTarget scope other (split reference).1) :
    designated fetch scope reference = designated fetch other reference := by
  have entered : enter (direct fetch) scope (split reference).1 =
      enter (direct fetch) other (split reference).1 := by
    unfold SameTarget at same
    split at same
    next => rw [same]
    next named => simp [enter, named, same]
  rw [designated, entered, designated]

/-- What designates the same document has a location that leads to the same document. -/
theorem sameTarget_of_enter {location : String}
    (entered : enter (direct fetch) scope location = Except.ok target)
    (alsoEntered : enter (direct fetch) other location = Except.ok target) :
    SameTarget scope other location := by
  unfold SameTarget
  rcases enter_eq_ok.1 entered with ⟨empty, rfl⟩ | ⟨named, joined, _, leads, _, rfl⟩
  · rcases enter_eq_ok.1 alsoEntered with ⟨_, same⟩ | ⟨named, _⟩
    · rwa [if_pos empty]
    · exact absurd empty named
  · rcases enter_eq_ok.1 alsoEntered with ⟨empty, _⟩ | ⟨_, alsoJoined, _, alsoLeads, _, same⟩
    · exact absurd empty named
    · cases same
      rw [if_neg named, leads, alsoLeads]

/-- Between files, a location leads to the same document exactly if it is not relative or the files
are in one directory. -/
theorem sameTarget_between_files {base otherBase location : String} (named : location ≠ "")
    (here : scope.location = some base) (there : other.location = some otherBase)
    (notWeb : Location.isWeb base = false) (alsoNotWeb : Location.isWeb otherBase = false) :
    SameTarget scope other location ↔
      ¬Location.Relative location ∨ Location.directory base = Location.directory otherBase := by
  rw [SameTarget, if_neg named, here, there]
  by_cases relative : Location.Relative location
  · rw [Location.join_eq_join_iff relative notWeb alsoNotWeb]
    simp [relative]
  · have same : Location.join (some base) location = Location.join (some otherBase) location :=
      Location.join_eq_join_of_not_relative relative notWeb alsoNotWeb
    simp [relative, same]

/-- A location that is a complete address always leads to the same document. -/
theorem sameTarget_of_address {location : String}
    (address : Location.isWeb location = true ∨ Location.isFileUrl location = true) :
    SameTarget scope other location := by
  have named : location ≠ "" := by
    intro empty
    subst empty
    revert address
    decide
  rw [SameTarget, if_neg named]
  rcases address with web | file
  · simp [Location.join, web]
  · simp [Location.join, file]

/-- A reference that remains was copied from a place of a document that is reached from the one that
is resolved, unless it was composed. Read from the resolved document it designates what it did in
the document it was written in if its location leads to the same document from both, and otherwise
something else, provided that it designated anything. Complete addresses lead to the same document,
and so do, between files, locations that are not relative or that stand in the same directory. -/
theorem dereference_designates {depth : Nat} {document result : Value} {location : Option String}
    (success : (dereference fetch depth document location).result = .ok result) :
    (∀ position reference, RefersAt result position reference →
      (∃ origin below,
        Kept fetch (.start ⟨document, location⟩) position origin below reference) ∨
        ∃ origin, Comes fetch (.start ⟨document, location⟩) position origin [] ∧
          Composed origin) ∧
      (∀ position origin below reference,
        Kept fetch (.start ⟨document, location⟩) position origin below reference →
          RefersAt result position reference ∧
          Stands fetch ⟨document, location⟩ origin.scope origin.value ∧
          (SameTarget ⟨document, location⟩ origin.scope (split reference).1 →
            designated fetch ⟨document, location⟩ reference =
              designated fetch origin.scope reference) ∧
          ∀ found, designated fetch origin.scope reference = Except.ok found →
            designated fetch ⟨document, location⟩ reference = Except.ok found →
              SameTarget ⟨document, location⟩ origin.scope (split reference).1) ∧
      (∀ scope target, Location.isWeb target = true ∨ Location.isFileUrl target = true →
        SameTarget ⟨document, location⟩ scope target) ∧
      ∀ scope target base otherBase, target ≠ "" → location = some base →
        scope.location = some otherBase → Location.isWeb base = false →
          Location.isWeb otherBase = false → (SameTarget ⟨document, location⟩ scope target ↔
            ¬Location.Relative target ∨
              Location.directory base = Location.directory otherBase) := by
  refine ⟨fun position reference refers => kept_or_composed success refers, ?_, ?_, ?_⟩
  · intro position origin below reference kept
    refine ⟨kept.refersAt success, kept.comes.onBranch_start.stands, SameTarget.designated_eq, ?_⟩
    intro found there here
    exact sameTarget_of_enter (designated_eq_ok.1 here).1 (designated_eq_ok.1 there).1
  · exact fun scope target address => sameTarget_of_address address
  · intro scope target base otherBase named here there
    exact sameTarget_between_files named here there

/-- The entries of a value that refers to itself, inside of its document and by the location of
it. -/
def innerNode : Entries :=
  [(.text "child", .mapping [(.text "$ref", .text "#/node")]),
    (.text "other", .mapping [(.text "$ref", .text "ext.json#/node")])]

/-- The document at `ext.json`. -/
def innerDocument : Value :=
  .mapping [(.text "node", .mapping innerNode)]

/-- The reference of `outerDocument`. -/
def outerReference : Entries :=
  [(.text "$ref", .text "ext.json#/node")]

/-- A document that refers to `innerNode`, and has another value at the same pointer. -/
def outerDocument : Value :=
  .mapping [(.text "a", .mapping outerReference), (.text "node", .int 1)]

/-- What comes out of resolving `outerDocument`. -/
def inlinedDocument : Value :=
  .mapping [(.text "a", .mapping innerNode), (.text "node", .int 1)]

/-- Loads `innerDocument` only. -/
def fetchInner (location : String) : Except Unit Value :=
  if location = "ext.json" then .ok innerDocument else .error ()

def outerScope : Scope := ⟨outerDocument, some "root.json"⟩

def innerScope : Scope := ⟨innerDocument, some "ext.json"⟩

theorem enter_inner {scope : Scope} {reference : String}
    (named : (split reference).1 = "ext.json")
    (leads : Location.join scope.location "ext.json" = .ok "ext.json") :
    enter (direct fetchInner) scope (split reference).1 = Except.ok innerScope := by
  rw [named, enter_eq_ok]
  exact .inr ⟨by decide, "ext.json", innerDocument, leads, if_pos rfl, rfl⟩

/-- A value of `innerNode`, come to by the reference of `outerDocument`. -/
def innerSpot (value : Value) : Spot :=
  ⟨[⟨innerScope, "ext.json#/node"⟩], innerScope, value⟩

theorem follows_outer : Follows fetchInner ⟨[], outerScope, .mapping outerReference⟩
    (innerSpot (.mapping innerNode)) outerReference "ext.json#/node" where
  value := rfl
  found := by rfl
  entered := enter_inner (by rfl) (by rfl)
  fresh := by simp [Spot.seen]
  selected := by rfl
  visits := rfl

theorem recurs_child (value : Value) : Recurs fetchInner (innerSpot value) "#/node" :=
  ⟨innerScope, by rfl, List.mem_singleton.2 (by rfl)⟩

theorem recurs_other (value : Value) : Recurs fetchInner (innerSpot value) "ext.json#/node" :=
  ⟨innerScope, enter_inner (by rfl) (by rfl), List.mem_singleton.2 (by rfl)⟩

theorem resolves_inner (value : Value) :
    Resolves (direct fetchInner) 1 innerScope (innerSpot value).seen (.mapping innerNode)
      (.mapping innerNode) := by
  obtain ⟨_, entered, repeated⟩ := recurs_child value
  obtain ⟨_, alsoEntered, alsoRepeated⟩ := recurs_other value
  refine .ofEntries (by rfl) (.cons ⟨rfl, ?_⟩ (.cons ⟨rfl, ?_⟩ .nil))
  · exact .left (by rfl) entered repeated
  · exact .left (by rfl) alsoEntered alsoRepeated

theorem dereference_outer :
    (dereference fetchInner 2 outerDocument (some "root.json")).result = .ok inlinedDocument := by
  have inner : Resolves (direct fetchInner) 2 outerScope [] (.mapping outerReference)
      (.mapping (Entries.putAll innerNode [])) :=
    .laid follows_outer.found follows_outer.entered List.not_mem_nil follows_outer.selected
      (resolves_inner (.mapping innerNode)) (by rfl) nofun
  rw [dereference_result, resolve_eq_ok]
  exact .ofEntries (by rfl) (.cons ⟨rfl, inner⟩ (.cons ⟨rfl, .scalar _⟩ .nil))

/-- What stands in `innerNode` is copied to the first entry of the resolved document. -/
theorem kept_inner {index : Nat} {key : Scalar} {written : Entries} {reference : String}
    (entry : innerNode[index]? = some (key, .mapping written))
    (found : reference? written = some reference)
    (recurs : Recurs fetchInner (innerSpot (.mapping written)) reference) :
    Kept fetchInner (.start outerScope) [0, index] (innerSpot (.mapping written)) [] reference := by
  have copied : Copied fetchInner (innerSpot (.mapping written)) := .circular rfl found recurs
  have below : Comes fetchInner (innerSpot (.mapping innerNode)) [index]
      (innerSpot (.mapping written)) [] := .entry rfl (by rfl) entry (.copied copied)
  have made := (resolves_inner (.mapping innerNode)).resolve_eq
  exact ⟨.entry rfl (by rfl) rfl (.target follows_outer made (covering_nil _ _) below), copied,
    refersAt_nil.2 found⟩

/-- A reference of `innerNode` that names its document designates the same in the resolved
document. -/
theorem dereference_designates_named :
    (dereference fetchInner 2 outerDocument (some "root.json")).result = .ok inlinedDocument ∧
      RefersAt inlinedDocument [0, 1] "ext.json#/node" ∧
      designated fetchInner outerScope "ext.json#/node" =
        designated fetchInner innerScope "ext.json#/node" := by
  have entry : innerNode[1]? =
      some (.text "other", .mapping [(.text "$ref", .text "ext.json#/node")]) := rfl
  have kept := kept_inner entry (by rfl) (recurs_other _)
  obtain ⟨_, designates, _, between⟩ := dereference_designates dereference_outer
  obtain ⟨remains, _, same, _⟩ := designates [0, 1] _ [] _ kept
  have directories : Location.directory "root.json" = Location.directory "ext.json" := by rfl
  have sameTarget := (between innerScope "ext.json" "root.json" "ext.json" (by decide) rfl rfl
    (by decide) (by decide)).2 (.inr directories)
  exact ⟨dereference_outer, remains, same sameTarget⟩

/-- The reference of `innerNode` that stays inside of its document designates another value in the
resolved document. -/
theorem inlined_reference_changes :
    (dereference fetchInner 2 outerDocument (some "root.json")).result = .ok inlinedDocument ∧
      RefersAt inlinedDocument [0, 0] "#/node" ∧
      ∃ origin, Kept fetchInner (.start outerScope) [0, 0] origin [] "#/node" ∧
        designated fetchInner origin.scope "#/node" =
          Except.ok (innerScope, .mapping innerNode) ∧
        designated fetchInner outerScope "#/node" = Except.ok (outerScope, .int 1) :=
  ⟨dereference_outer, ⟨_, rfl, by rfl⟩, _, kept_inner rfl (by rfl) (recurs_child _),
    by rfl, by rfl⟩

end RouteTypes.Reference
