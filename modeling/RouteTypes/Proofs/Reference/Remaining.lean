import Mathlib
import RouteTypes.Proofs.Reference.Cache
import RouteTypes.Proofs.Reference.Origin

/-!
# The references that remain

The references of a resolved document are those of what is copied: of mappings with a circular
reference and of tuples. The reference of such a mapping is circular. References that stand deeper
inside, as those of the values beside a circular reference, are copied unseen. So all references
that remain are circular exactly if these are (`dereference_remaining`), which need not be so
(`left_sibling_stays`) unless no reference stands beside another one or in a tuple.
-/

namespace RouteTypes.Reference

open Value

variable {ε : Type} {fetch : String → Except ε Value}

/-- A reference inside of something that is copied comes to stand at a position. -/
structure Kept (fetch : String → Except ε Value) (spot : Spot) (position : List Nat)
    (origin : Spot) (below : List Nat) (reference : String) : Prop where
  comes : Comes fetch spot position origin below
  copied : Copied fetch origin
  refers : RefersAt origin.value below reference

/-- The reference of something that is copied is circular itself. -/
theorem Kept.recurs {spot origin : Spot} {position : List Nat} {reference : String}
    (kept : Kept fetch spot position origin [] reference) : Recurs fetch origin reference := by
  obtain ⟨entries, stands, found⟩ := kept.refers
  exact kept.copied.recurs (Option.some.inj stands) found

/-- What stands at a position of the resolved document was come to on a branch on which the target
of a reference is being resolved. -/
def CircularAt (fetch : String → Except ε Value) (root : Scope) (position : List Nat)
    (reference : String) : Prop :=
  ∃ origin below, Comes fetch (.start root) position origin below ∧ origin.OnBranch fetch root ∧
    Recurs fetch origin reference

/-- No reference stands beside another one or in a tuple. -/
def Bare (document : Value) : Prop :=
  ∀ part, Part part document → (referenceOf part ≠ none ∨ ∃ items, part = .tuple items) →
    ∀ position reference, RefersAt part position reference → position = []

section

variable {depth : Nat} {document result : Value} {location : Option String}

theorem Comes.onBranch_start {root : Scope} {position below : List Nat} {origin : Spot}
    (comes : Comes fetch (.start root) position origin below) : origin.OnBranch fetch root :=
  comes.onBranch (Spot.onBranch_start root)

/-- A reference that remains is copied or composed. -/
theorem kept_or_composed
    (success : (dereference fetch depth document location).result = .ok result)
    {position : List Nat} {reference : String} (refers : RefersAt result position reference) :
    (∃ origin below, Kept fetch (.start ⟨document, location⟩) position origin below reference) ∨
      ∃ origin, Comes fetch (.start ⟨document, location⟩) position origin [] ∧
        Composed origin := by
  rw [dereference_result, resolve_eq_ok] at success
  have explained : Explained fetch (.start ⟨document, location⟩) result :=
    explained_of_resolves success rfl
  obtain ⟨origin, below, comes, remains⟩ := explained position reference refers
  cases remains with
  | copied copied refers => exact .inl ⟨origin, below, comes, copied, refers⟩
  | composed whole composed =>
      subst whole
      exact .inr ⟨origin, comes, composed⟩

/-- What is copied remains. -/
theorem Kept.refersAt (success : (dereference fetch depth document location).result = .ok result)
    {position below : List Nat} {origin : Spot} {reference : String}
    (kept : Kept fetch (.start ⟨document, location⟩) position origin below reference) :
    RefersAt result position reference := by
  rw [dereference_result, resolve_eq_ok] at success
  exact kept.comes.refersAt success kept.copied kept.refers

/-- In bare documents nothing is copied together with a reference. -/
theorem Kept.below_eq_nil {root : Scope} {position below : List Nat} {origin : Spot}
    {reference : String} (kept : Kept fetch (.start root) position origin below reference)
    (bare : ∀ scope, Known fetch root scope → Bare scope.root) : below = [] := by
  have stands := kept.comes.onBranch_start.stands
  refine bare _ stands.known _ stands.part ?_ below reference kept.refers
  cases kept.copied with
  | circular value found =>
      rw [value]
      exact .inl (Option.ne_none_iff_exists'.2 ⟨_, found⟩)
  | tuple value => exact .inr ⟨_, value⟩

/-- A reference remains exactly if it is copied. All references that remain are circular, each on
the branch on which it was come to, exactly if those are that are copied with something around
them. In bare documents there are none of the latter. -/
theorem dereference_remaining
    (unnested : ∀ scope, Known fetch ⟨document, location⟩ scope → Unnested scope.root)
    (success : (dereference fetch depth document location).result = .ok result) :
    (∀ position reference, RefersAt result position reference ↔ ∃ origin below,
        Kept fetch (.start ⟨document, location⟩) position origin below reference) ∧
      ((∀ position reference, RefersAt result position reference →
          CircularAt fetch ⟨document, location⟩ position reference) ↔
        ∀ position origin below reference, below ≠ [] →
          Kept fetch (.start ⟨document, location⟩) position origin below reference →
            Recurs fetch origin reference) ∧
      ((∀ scope, Known fetch ⟨document, location⟩ scope → Bare scope.root) →
        ∀ position reference, RefersAt result position reference →
          CircularAt fetch ⟨document, location⟩ position reference) := by
  have remaining (position : List Nat) (reference : String) :
      RefersAt result position reference ↔ ∃ origin below,
        Kept fetch (.start ⟨document, location⟩) position origin below reference := by
    constructor
    · intro refers
      rcases kept_or_composed success refers with kept | ⟨origin, comes, composed⟩
      · exact kept
      · exact absurd composed (comes.onBranch_start.not_composed unnested)
    · intro given
      obtain ⟨origin, below, kept⟩ := given
      exact kept.refersAt success
  have circular (inside : ∀ position origin below reference, below ≠ [] →
      Kept fetch (.start ⟨document, location⟩) position origin below reference →
        Recurs fetch origin reference) (position : List Nat) (reference : String)
      (refers : RefersAt result position reference) :
      CircularAt fetch ⟨document, location⟩ position reference := by
    obtain ⟨origin, below, kept⟩ := (remaining position reference).1 refers
    refine ⟨origin, below, kept.comes, kept.comes.onBranch_start, ?_⟩
    cases below with
    | nil => exact kept.recurs
    | cons index rest => exact inside position origin _ reference (List.cons_ne_nil _ _) kept
  refine ⟨remaining, ⟨?_, circular⟩, ?_⟩
  · intro circular position origin below reference _ kept
    obtain ⟨other, rest, comes, _, recurs⟩ :=
      circular position reference ((remaining position reference).2 ⟨origin, below, kept⟩)
    obtain ⟨rfl, rfl⟩ := kept.comes.unique comes
    exact recurs
  · intro bare
    exact circular fun _ _ _ _ deeper kept => absurd (kept.below_eq_nil bare) deeper

end

/-- A mapping that refers to the one around it, beside another reference. -/
def loopReference : Entries :=
  [(.text "$ref", .text "#/node"), (.text "note", .mapping [(.text "$ref", .text "#/leaf")])]

/-- A document that refers to itself, with a reference beside the circular one. -/
def looped : Value :=
  .mapping [(.text "node", .mapping [(.text "child", .mapping loopReference)]),
    (.text "leaf", .int 1)]

/-- What comes out of resolving `looped`: the sibling is resolved where the reference beside it is
followed, and not where that reference is left. -/
def loopedResolved : Value :=
  .mapping [(.text "node", .mapping [(.text "child", .mapping
    [(.text "child", .mapping loopReference), (.text "note", .int 1)])]), (.text "leaf", .int 1)]

theorem unnested_looped (scope : Scope)
    (known : Known (fun _ => Except.error ()) ⟨looped, none⟩ scope) : Unnested scope.root := by
  intro entries held part found
  cases known_of_fails known
  simp [looped, loopReference] at part
  rcases part with rfl | rfl | rfl | rfl <;> cases found <;> rfl

/-- The spot at which the resolution of `looped` comes to the circular reference again. -/
def loopSpot : Spot :=
  ⟨[⟨⟨looped, none⟩, "#/node"⟩], ⟨looped, none⟩, .mapping loopReference⟩

/-- The value beside the circular reference is come to by following this reference once. -/
theorem comes_looped :
    Comes (fun _ => Except.error ()) (.start ⟨looped, none⟩) [0, 0, 0, 1] loopSpot [1] := by
  have copied : Copied (fun _ => Except.error ()) loopSpot :=
    .circular rfl (by rfl) ⟨⟨looped, none⟩, by rfl, by decide⟩
  have follows : Follows (fun _ => Except.error ())
      ⟨[], ⟨looped, none⟩, .mapping loopReference⟩
      ⟨[⟨⟨looped, none⟩, "#/node"⟩], ⟨looped, none⟩,
        .mapping [(.text "child", .mapping loopReference)]⟩ loopReference "#/node" :=
    ⟨rfl, by rfl, by rfl, by decide, by rfl, rfl⟩
  have made : resolve (direct (fun _ => Except.error ())) 2 ⟨looped, none⟩ ["#/node"]
      (.mapping [(.text "child", .mapping loopReference)]) =
        Except.ok (.mapping [(.text "child", .mapping loopReference)]) := by cbv
  refine .entry rfl (by rfl) rfl (.entry rfl (by rfl) rfl ?_)
  exact .target follows made (by rfl) (.entry rfl (by rfl) rfl (.copied copied))

/-- Both references that `loopedResolved` holds are copied: the circular one, and the one beside
it. -/
theorem dereference_remaining_looped :
    (dereference (fun _ => Except.error ()) 3 looped none).result = .ok loopedResolved ∧
      (∃ origin below, Kept (fun _ => Except.error ()) (.start ⟨looped, none⟩) [0, 0, 0] origin
        below "#/node") ∧
      ∃ origin below, Kept (fun _ => Except.error ()) (.start ⟨looped, none⟩) [0, 0, 0, 1] origin
        below "#/leaf" := by
  have success : (dereference (fun _ => Except.error ()) 3 looped none).result =
      .ok loopedResolved := by cbv
  obtain ⟨remaining, _⟩ := dereference_remaining unnested_looped success
  exact ⟨success, (remaining _ _).1 ⟨_, rfl, rfl⟩, (remaining _ _).1 ⟨_, rfl, rfl⟩⟩

/-- The reference beside the circular one remains in `loopedResolved`, though its target is not
being resolved where it was come to. -/
theorem left_sibling_stays :
    (∀ scope, Known (fun _ => Except.error ()) ⟨looped, none⟩ scope → Unnested scope.root) ∧
      (dereference (fun _ => Except.error ()) 3 looped none).result = .ok loopedResolved ∧
      RefersAt loopedResolved [0, 0, 0, 1] "#/leaf" ∧
      ¬CircularAt (fun _ => Except.error ()) ⟨looped, none⟩ [0, 0, 0, 1] "#/leaf" := by
  refine ⟨unnested_looped, by cbv, ⟨_, rfl, rfl⟩, ?_⟩
  intro given
  obtain ⟨origin, below, comes, _, recurs⟩ := given
  obtain ⟨rfl, rfl⟩ := comes_looped.unique comes
  obtain ⟨target, entered, repeated⟩ := recurs
  cases entered
  revert repeated
  decide

end RouteTypes.Reference
