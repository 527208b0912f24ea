import RouteTypes.Proofs.Reference.Branch
import RouteTypes.Proofs.Value.Position

/-!
# Where a resolved value comes from

What stands at a position of a resolved document was found at some place of some document, while
certain references were being followed. `Comes` says which: it walks through the resolution as
`resolve` does, but only towards one position, and comes to one spot (`Comes.unique`). References
stand in a resolved document because they are copied together with what stands around them, or
because they were put together from two references (`explained_of_resolves`). Those that are copied
always stand there (`Comes.refersAt`).
-/

namespace RouteTypes.Reference

open Value

variable {ε : Type} {fetch : String → Except ε Value}

/-! ## Spots -/

/-- A place that a resolution comes to: the references that it is following, the last one first, and
the value of a document. -/
structure Spot where
  visits : List Visit
  scope : Scope
  value : Value

namespace Spot

/-- The spot that the resolution of a document starts with. -/
def start (root : Scope) : Spot :=
  ⟨[], root, root.root⟩

/-- The marks that are being resolved. -/
def seen (spot : Spot) : List String :=
  spot.visits.map Visit.key

end Spot

/-- A mapping with a reference leads from a spot to the next one. -/
structure Follows (fetch : String → Except ε Value) (spot next : Spot) (written : Entries)
    (reference : String) : Prop where
  value : spot.value = .mapping written
  found : reference? written = some reference
  entered : enter (direct fetch) spot.scope (split reference).1 = Except.ok next.scope
  fresh : mark next.scope.location (split reference).2 ∉ spot.seen
  selected : Pointer.resolve next.scope.root (split reference).2 = .ok next.value
  visits : next.visits = ⟨next.scope, reference⟩ :: spot.visits

/-- The target of a reference is being resolved at a spot. -/
def Recurs (fetch : String → Except ε Value) (spot : Spot) (reference : String) : Prop :=
  ∃ target, enter (direct fetch) spot.scope (split reference).1 = Except.ok target ∧
    mark target.location (split reference).2 ∈ spot.seen

/-- What is copied as it is: a mapping with a reference whose target is being resolved, or a
tuple. -/
inductive Copied (fetch : String → Except ε Value) (spot : Spot) : Prop where
  | circular {written : Entries} {reference : String} (value : spot.value = .mapping written)
      (found : reference? written = some reference) (recurs : Recurs fetch spot reference)
  | tuple {items : List Value} (value : spot.value = .tuple items)

/-- The sibling that stands at a position once siblings are laid over a resolved value. -/
def covering (resolved : Value) (beside : Entries) : List Nat → Option Value
  | [] => none
  | index :: _ =>
    match resolved with
    | .mapping base => ((Entries.covers base beside)[index]?).join
    | _ => none

/-- What stands at a position of the resolved value of a spot comes from another spot, and stands
at a position below it. The walk ends at what is copied and, where the position ends, at what refers
to nothing. Any other reference is followed, unless one of its siblings comes to stand at the
position. -/
inductive Comes (fetch : String → Except ε Value) :
    Spot → List Nat → Spot → List Nat → Prop where
  | plain {spot : Spot} (plain : referenceOf spot.value = none) : Comes fetch spot [] spot []
  | copied {spot : Spot} {position : List Nat} (copied : Copied fetch spot) :
      Comes fetch spot position spot position
  | item {spot origin : Spot} {items : List Value} {item : Value} {index : Nat}
      {position below : List Nat} (value : spot.value = .list items)
      (found : items[index]? = some item)
      (rest : Comes fetch { spot with value := item } position origin below) :
      Comes fetch spot (index :: position) origin below
  | entry {spot origin : Spot} {written : Entries} {entry : Scalar × Value} {index : Nat}
      {position below : List Nat} (value : spot.value = .mapping written)
      (plain : reference? written = none) (found : written[index]? = some entry)
      (rest : Comes fetch { spot with value := entry.2 } position origin below) :
      Comes fetch spot (index :: position) origin below
  | target {spot next origin : Spot} {written : Entries} {reference : String} {resolved : Value}
      {depth : Nat} {position below : List Nat}
      (follows : Follows fetch spot next written reference)
      (made : resolve (direct fetch) depth next.scope next.seen next.value = Except.ok resolved)
      (own : covering resolved (siblings written) position = none)
      (rest : Comes fetch next position origin below) : Comes fetch spot position origin below
  | sibling {spot next origin : Spot} {written : Entries} {reference : String}
      {resolved source : Value} {depth index : Nat} {position below : List Nat}
      (follows : Follows fetch spot next written reference)
      (made : resolve (direct fetch) depth next.scope next.seen next.value = Except.ok resolved)
      (covered : covering resolved (siblings written) (index :: position) = some source)
      (rest : Comes fetch { spot with value := source } position origin below) :
      Comes fetch spot (index :: position) origin below

/-- Siblings are laid over mappings only. -/
theorem covering_eq_none {resolved : Value} {beside : Entries} {position : List Nat}
    (noMapping : ∀ entries, resolved ≠ .mapping entries) :
    covering resolved beside position = none := by
  unfold covering
  split
  next => rfl
  next =>
    split
    next => exact absurd rfl (noMapping _)
    next => rfl

@[simp] theorem covering_nil (resolved : Value) (position : List Nat) :
    covering resolved [] position = none := by
  cases position with
  | nil => rfl
  | cons index rest =>
      cases resolved with
      | scalar | list | tuple | set => rfl
      | mapping base =>
          rw [covering, Entries.covers, List.map_nil, Entries.putAll, List.foldl_nil, List.map_map,
            List.getElem?_map]
          cases base[index]? <;> rfl

theorem mem_of_covering {resolved source : Value} {written : Entries} {position : List Nat}
    (covered : covering resolved (siblings written) position = some source) :
    ∃ entry ∈ written, entry.2 = source := by
  unfold covering at covered
  split at covered
  next => cases covered
  next =>
    split at covered
    next =>
      rw [Option.join_eq_some_iff] at covered
      obtain ⟨entry, member, same⟩ := Entries.exists_of_covers covered
      exact ⟨entry, (mem_siblings.1 member).1, same⟩
    next => cases covered

/-! ## One origin -/

section

variable {spot next other : Spot} {written : Entries} {reference : String}

theorem Copied.not_list {items : List Value} (copied : Copied fetch spot)
    (value : spot.value = .list items) : False := by
  cases copied with
  | circular same | tuple same => cases same.symm.trans value

theorem Copied.recurs (copied : Copied fetch spot) (value : spot.value = .mapping written)
    (found : reference? written = some reference) : Recurs fetch spot reference := by
  cases copied with
  | circular same alsoFound recurs =>
      cases same.symm.trans value
      cases alsoFound.symm.trans found
      exact recurs
  | tuple same => cases same.symm.trans value

theorem Copied.not_plain (copied : Copied fetch spot) (value : spot.value = .mapping written)
    (plain : reference? written = none) : False := by
  cases copied with
  | circular same found =>
      cases same.symm.trans value
      cases plain.symm.trans found
  | tuple same => cases same.symm.trans value

theorem Follows.not_plain (follows : Follows fetch spot next written reference) :
    referenceOf spot.value ≠ none := by
  intro plain
  rw [follows.value] at plain
  cases plain.symm.trans follows.found

theorem Follows.not_recurs (follows : Follows fetch spot next written reference) :
    ¬Recurs fetch spot reference := by
  intro recurs
  rcases recurs with ⟨target, entered, repeated⟩
  cases follows.entered.symm.trans entered
  exact follows.fresh repeated

theorem Copied.not_follows (copied : Copied fetch spot)
    (follows : Follows fetch spot next written reference) : False :=
  follows.not_recurs (copied.recurs follows.value follows.found)

/-- A mapping leads to one spot only. -/
theorem Follows.unique {alsoWritten : Entries} {alsoReference : String}
    (follows : Follows fetch spot next written reference)
    (alsoFollows : Follows fetch spot other alsoWritten alsoReference) :
    next = other ∧ written = alsoWritten := by
  obtain ⟨visits, scope, target⟩ := next
  obtain ⟨otherVisits, otherScope, otherTarget⟩ := other
  obtain ⟨value, found, entered, _, selected, visited⟩ := follows
  obtain ⟨alsoValue, alsoFound, alsoEntered, _, alsoSelected, alsoVisited⟩ := alsoFollows
  cases value.symm.trans alsoValue
  cases found.symm.trans alsoFound
  cases entered.symm.trans alsoEntered
  cases selected.symm.trans alsoSelected
  cases visited.trans alsoVisited.symm
  exact ⟨rfl, rfl⟩

end

/-- What stands at a position comes from one spot. -/
theorem Comes.unique {spot origin other : Spot} {position below rest : List Nat}
    (comes : Comes fetch spot position origin below)
    (alsoComes : Comes fetch spot position other rest) : origin = other ∧ below = rest := by
  induction comes with
  | plain plain =>
      cases alsoComes with
      | plain | copied => exact ⟨rfl, rfl⟩
      | target follows => exact absurd plain follows.not_plain
  | copied copied =>
      cases alsoComes with
      | plain | copied => exact ⟨rfl, rfl⟩
      | item value => exact (copied.not_list value).elim
      | entry value plain => exact (copied.not_plain value plain).elim
      | target follows | sibling follows => exact (copied.not_follows follows).elim
  | item value found _ ih =>
      cases alsoComes with
      | copied copied => exact (copied.not_list value).elim
      | item alsoValue alsoFound alsoRest =>
          cases value.symm.trans alsoValue
          cases found.symm.trans alsoFound
          exact ih alsoRest
      | entry alsoValue => cases value.symm.trans alsoValue
      | target follows | sibling follows => cases value.symm.trans follows.value
  | entry value plain found _ ih =>
      cases alsoComes with
      | copied copied => exact (copied.not_plain value plain).elim
      | item alsoValue => cases value.symm.trans alsoValue
      | entry alsoValue _ alsoFound alsoRest =>
          cases value.symm.trans alsoValue
          cases found.symm.trans alsoFound
          exact ih alsoRest
      | target follows | sibling follows => exact absurd (value ▸ plain) follows.not_plain
  | target follows made own _ ih =>
      cases alsoComes with
      | plain plain => exact absurd plain follows.not_plain
      | copied copied => exact (copied.not_follows follows).elim
      | item value => cases value.symm.trans follows.value
      | entry value plain => exact absurd (value ▸ plain) follows.not_plain
      | target alsoFollows _ _ alsoRest =>
          obtain ⟨rfl, rfl⟩ := follows.unique alsoFollows
          exact ih alsoRest
      | sibling alsoFollows alsoMade covered =>
          obtain ⟨rfl, rfl⟩ := follows.unique alsoFollows
          cases (resolve_eq_ok.1 made).unique (resolve_eq_ok.1 alsoMade)
          cases own.symm.trans covered
  | sibling follows made covered _ ih =>
      cases alsoComes with
      | copied copied => exact (copied.not_follows follows).elim
      | item value => cases value.symm.trans follows.value
      | entry value plain => exact absurd (value ▸ plain) follows.not_plain
      | target alsoFollows alsoMade own =>
          obtain ⟨rfl, rfl⟩ := follows.unique alsoFollows
          cases (resolve_eq_ok.1 made).unique (resolve_eq_ok.1 alsoMade)
          cases own.symm.trans covered
      | sibling alsoFollows alsoMade alsoCovered alsoRest =>
          obtain ⟨rfl, rfl⟩ := follows.unique alsoFollows
          cases (resolve_eq_ok.1 made).unique (resolve_eq_ok.1 alsoMade)
          cases covered.symm.trans alsoCovered
          exact ih alsoRest

/-- The references that are followed at a spot form a branch, and the value of the spot stands in
the one at its end. -/
def Spot.OnBranch (fetch : String → Except ε Value) (root : Scope) (spot : Spot) : Prop :=
  ∃ whole, Branch fetch root spot.visits spot.scope whole ∧ Part spot.value whole

theorem Spot.onBranch_start (root : Scope) : (Spot.start root).OnBranch fetch root :=
  ⟨root.root, .start, .whole _⟩

theorem Spot.OnBranch.part {root : Scope} {spot : Spot} {part : Value}
    (onBranch : spot.OnBranch fetch root) (inside : Part part spot.value) :
    Spot.OnBranch fetch root { spot with value := part } := by
  obtain ⟨whole, branch, outside⟩ := onBranch
  exact ⟨whole, branch, inside.trans outside⟩

theorem Spot.OnBranch.stands {root : Scope} {spot : Spot} (onBranch : spot.OnBranch fetch root) :
    Stands fetch root spot.scope spot.value := by
  obtain ⟨whole, branch, inside⟩ := onBranch
  exact ⟨branch.stands.known, inside.trans branch.stands.part⟩

/-- What comes from a branch comes from a branch. -/
theorem Comes.onBranch {root : Scope} {spot origin : Spot} {position below : List Nat}
    (comes : Comes fetch spot position origin below) (onBranch : spot.OnBranch fetch root) :
    origin.OnBranch fetch root := by
  induction comes with
  | plain | copied => exact onBranch
  | item value found _ ih =>
      exact ih (onBranch.part (value ▸ .ofItem (List.mem_of_getElem? found)))
  | entry value _ found _ ih =>
      exact ih (onBranch.part (value ▸ .ofEntry (List.mem_of_getElem? found)))
  | @target spot next _ _ reference _ _ _ _ follows _ _ _ ih =>
      obtain ⟨whole, branch, inside⟩ := onBranch
      have refers : Refers whole reference := .ofPart inside (follows.value ▸ .here follows.found)
      have further := branch.follow refers follows.entered follows.fresh follows.selected
      rw [← follows.visits] at further
      exact ih ⟨next.value, further, .whole _⟩
  | sibling follows _ covered _ ih =>
      obtain ⟨entry, member, rfl⟩ := mem_of_covering covered
      exact ih (onBranch.part (follows.value ▸ .ofEntry member))

/-! ## Why a reference stands in a resolved value -/

/-- A mapping with a reference stands at a position of a value. -/
def RefersAt (value : Value) (position : List Nat) (reference : String) : Prop :=
  ∃ entries, value.atPosition? position = some (.mapping entries) ∧
    reference? entries = some reference

@[simp] theorem refersAt_nil {value : Value} {reference : String} :
    RefersAt value [] reference ↔ referenceOf value = some reference := by
  cases value <;> simp [RefersAt, referenceOf]

@[simp]
theorem refersAt_list {items : List Value} {index : Nat} {rest : List Nat} {reference : String} :
    RefersAt (.list items) (index :: rest) reference ↔
      ∃ item, items[index]? = some item ∧ RefersAt item rest reference := by
  constructor
  · intro refers
    obtain ⟨entries, stands, found⟩ := refers
    obtain ⟨item, known, inside⟩ := atPosition?_list.1 stands
    exact ⟨item, known, entries, inside, found⟩
  · intro refers
    obtain ⟨item, known, entries, inside, found⟩ := refers
    exact ⟨entries, atPosition?_list.2 ⟨item, known, inside⟩, found⟩

@[simp]
theorem refersAt_mapping {entries : Entries} {index : Nat} {rest : List Nat} {reference : String} :
    RefersAt (.mapping entries) (index :: rest) reference ↔
      ∃ entry, entries[index]? = some entry ∧ RefersAt entry.2 rest reference := by
  constructor
  · intro refers
    obtain ⟨inner, stands, found⟩ := refers
    obtain ⟨entry, known, inside⟩ := atPosition?_mapping.1 stands
    exact ⟨entry, known, inner, inside, found⟩
  · intro refers
    obtain ⟨entry, known, inner, inside, found⟩ := refers
    exact ⟨inner, atPosition?_mapping.2 ⟨entry, known, inside⟩, found⟩

/-- The mapping of a spot holds a reference under the key of references, so that resolving this one
can give it the text of another. -/
inductive Composed (spot : Spot) : Prop where
  | intro {written : Entries} {held : Value} (value : spot.value = .mapping written)
      (plain : reference? written = none) (holds : Entries.get? written referenceKey = some held)
      (nested : referenceOf held ≠ none)

theorem Spot.OnBranch.not_composed {root : Scope} {spot : Spot}
    (onBranch : spot.OnBranch fetch root)
    (unnested : ∀ scope, Known fetch root scope → Unnested scope.root) : ¬Composed spot := by
  intro composed
  obtain ⟨value, _, holds, nested⟩ := composed
  have stands := onBranch.stands
  rw [value] at stands
  exact nested (unnested _ stands.known _ _ stands.part holds)

/-- A reference of a resolved value stands below a spot, because it is copied together with what
stands around it or because it was composed. -/
inductive Remains (fetch : String → Except ε Value) (spot : Spot) (below : List Nat)
    (reference : String) : Prop where
  | copied (copied : Copied fetch spot) (refers : RefersAt spot.value below reference)
  | composed (whole : below = []) (composed : Composed spot)

/-- All references that stand in a value, which came out of a spot, have an origin. -/
def Explained (fetch : String → Except ε Value) (spot : Spot) (result : Value) : Prop :=
  ∀ position reference, RefersAt result position reference →
    ∃ origin below, Comes fetch spot position origin below ∧ Remains fetch origin below reference

namespace Explained

variable {spot next : Spot} {written : Entries} {reference : String}

/-- What is copied explains itself. -/
theorem copied (copied : Copied fetch spot) : Explained fetch spot spot.value := by
  intro position reference refers
  exact ⟨spot, position, .copied copied, .copied copied refers⟩

theorem list {items results : List Value} (value : spot.value = .list items)
    (length : items.length = results.length)
    (parts : ∀ (index : Nat) (left : index < items.length) (right : index < results.length),
      Explained fetch { spot with value := items[index] } results[index]) :
    Explained fetch spot (.list results) := by
  intro position reference refers
  cases position with
  | nil => cases refersAt_nil.1 refers
  | cons index rest =>
      obtain ⟨result, known, refers⟩ := refersAt_list.1 refers
      obtain ⟨right, rfl⟩ := List.getElem?_eq_some_iff.1 known
      have left : index < items.length := length ▸ right
      obtain ⟨origin, below, comes, remains⟩ := parts index left right rest reference refers
      exact ⟨origin, below, .item value (List.getElem?_eq_getElem left) comes, remains⟩

/-- A mapping that refers to nothing comes to refer to something only if it holds a reference under
the key of references. -/
theorem mapping {depth : Nat} {results : Entries} (value : spot.value = .mapping written)
    (plain : reference? written = none)
    (resolved : List.Forall₂ (OnValues (Resolves (direct fetch) depth spot.scope spot.seen))
      written results)
    (values : ∀ (index : Nat) (left : index < written.length) (right : index < results.length),
      Explained fetch { spot with value := written[index].2 } results[index].2) :
    Explained fetch spot (.mapping results) := by
  intro position reference refers
  cases position with
  | nil =>
      have found := refersAt_nil.1 refers
      obtain ⟨result, foundResult, isText⟩ := reference?_eq_some.1 found
      obtain ⟨held, holds, derivation⟩ := get?_of_onValues (onValues_swap resolved) foundResult
      have nested : referenceOf held ≠ none := by
        intro unnested
        obtain ⟨scalar, rfl⟩ := scalar_of_textOf? isText
        rw [eq_scalar_of_resolves unnested derivation] at holds
        cases plain.symm.trans (reference?_eq_some.2 ⟨_, holds, isText⟩)
      exact ⟨spot, [], .plain (value ▸ plain), .composed rfl (.intro value plain holds nested)⟩
  | cons index rest =>
      obtain ⟨result, known, refers⟩ := refersAt_mapping.1 refers
      obtain ⟨right, rfl⟩ := List.getElem?_eq_some_iff.1 known
      have left : index < written.length := resolved.length_eq ▸ right
      obtain ⟨origin, below, comes, remains⟩ := values index left right rest reference refers
      exact ⟨origin, below, .entry value plain (List.getElem?_eq_getElem left) comes, remains⟩

theorem other {depth : Nat} {result : Value} (follows : Follows fetch spot next written reference)
    (made : resolve (direct fetch) depth next.scope next.seen next.value = Except.ok result)
    (noMapping : ∀ entries, result ≠ .mapping entries) (explained : Explained fetch next result) :
    Explained fetch spot result := by
  intro position other refers
  obtain ⟨origin, below, comes, remains⟩ := explained position other refers
  exact ⟨origin, below, .target follows made (covering_eq_none noMapping) comes, remains⟩

/-- A mapping over which siblings are laid refers to what it referred to before, so at the mapping
itself the reasons are the same. Below it, they are those of the mapping or of a sibling. -/
theorem laid {depth : Nat} {base extra : Entries}
    (follows : Follows fetch spot next written reference)
    (made : resolve (direct fetch) depth next.scope next.seen next.value =
      Except.ok (.mapping base))
    (keys : (siblings written).map Prod.fst = extra.map Prod.fst)
    (explained : Explained fetch next (.mapping base))
    (beside : ∀ (index : Nat) (left : index < (siblings written).length)
      (right : index < extra.length),
      Explained fetch { spot with value := (siblings written)[index].2 } extra[index].2) :
    Explained fetch spot (.mapping (Entries.putAll base extra)) := by
  intro position other refers
  cases position with
  | nil =>
      have found := refersAt_nil.1 refers
      rw [referenceOf, reference?_putAll (beside_of_keys keys)] at found
      obtain ⟨origin, below, comes, remains⟩ := explained [] other (refersAt_nil.2 found)
      exact ⟨origin, below, .target follows made rfl comes, remains⟩
  | cons index rest =>
      obtain ⟨entry, known, refers⟩ := refersAt_mapping.1 refers
      rcases Entries.covers_cases keys known with ⟨uncovered, own⟩ | ⟨place, left, right, covered,
        same⟩
      · obtain ⟨origin, below, comes, remains⟩ :=
          explained (index :: rest) other (refersAt_mapping.2 ⟨entry, own, refers⟩)
        exact ⟨origin, below, .target follows made (by simp [covering, uncovered]) comes, remains⟩
      · rw [same] at refers
        obtain ⟨origin, below, comes, remains⟩ := beside place left right rest other refers
        exact ⟨origin, below, .sibling follows made (by simp [covering, covered]) comes, remains⟩

end Explained

/-- All references of a resolved value have an origin. -/
theorem explained_of_resolves {depth : Nat} {scope : Scope} {seen : List String}
    {value result : Value} {visits : List Visit}
    (derivation : Resolves (direct fetch) depth scope seen value result)
    (same : seen = visits.map Visit.key) : Explained fetch ⟨visits, scope, value⟩ result := by
  induction derivation generalizing visits with
  | scalar | set =>
      intro position reference refers
      obtain ⟨entries, stands, _⟩ := refers
      cases position with
      | nil => cases stands
      | cons => simp at stands
  | tuple items => exact .copied (.tuple rfl)
  | list length _ ih =>
      exact .list rfl length fun index left right => ih index left right same
  | mapping plain keys values ih =>
      subst same
      exact .mapping rfl plain (onValues_iff_getElem.2 ⟨keys, values⟩)
        fun index left right => ih index left right rfl
  | left found entered repeated =>
      subst same
      exact .copied (.circular rfl found ⟨_, entered, repeated⟩)
  | @other _ _ target _ _ reference value _ found entered fresh selected inner noMapping ih =>
      subst same
      have follows : Follows fetch ⟨visits, _, _⟩ ⟨⟨target, reference⟩ :: visits, target, value⟩
          _ reference := ⟨rfl, found, entered, fresh, selected, rfl⟩
      exact .other follows inner.resolve_eq noMapping (ih rfl)
  | @laid _ _ target _ _ _ _ reference value found entered fresh selected inner keys _ ih
      besideIH =>
      subst same
      have follows : Follows fetch ⟨visits, _, _⟩ ⟨⟨target, reference⟩ :: visits, target, value⟩
          _ reference := ⟨rfl, found, entered, fresh, selected, rfl⟩
      exact .laid follows inner.resolve_eq keys (ih rfl)
        fun index left right => besideIH index left right rfl

/-! ## What is copied stays -/

section

variable {spot next : Spot} {written : Entries} {reference : String} {depth : Nat} {result : Value}

theorem Copied.eq_of_resolves (copied : Copied fetch spot)
    (derivation : Resolves (direct fetch) depth spot.scope spot.seen spot.value result) :
    result = spot.value := by
  cases copied with
  | tuple value =>
      rw [value] at derivation ⊢
      cases derivation
      rfl
  | circular value found recurs =>
      obtain ⟨target, entered, repeated⟩ := recurs
      rw [value] at derivation ⊢
      cases derivation with
      | mapping plain => cases plain.symm.trans found
      | left => rfl
      | other otherFound otherEntered fresh | laid otherFound otherEntered fresh =>
          cases found.symm.trans otherFound
          cases entered.symm.trans otherEntered
          exact absurd repeated fresh

/-- What becomes of a mapping whose reference is followed: it is what becomes of the next spot, with
the resolved siblings laid over it where that is a mapping. -/
theorem Follows.cases_of_resolves {other : Nat} {resolved : Value}
    (follows : Follows fetch spot next written reference)
    (derivation : Resolves (direct fetch) depth spot.scope spot.seen spot.value result)
    (made : resolve (direct fetch) other next.scope next.seen next.value = Except.ok resolved) :
    (∀ entries, resolved ≠ .mapping entries) ∧ result = resolved ∨
      ∃ base extra, resolved = .mapping base ∧
      result = .mapping (Entries.putAll base extra) ∧
      (siblings written).map Prod.fst = extra.map Prod.fst ∧
      ∀ (index : Nat) (left : index < (siblings written).length) (right : index < extra.length),
        Resolves (direct fetch) depth spot.scope spot.seen (siblings written)[index].2
          extra[index].2 := by
  obtain ⟨value, found, entered, fresh, selected, visits⟩ := follows
  have seen : next.seen = mark next.scope.location (split reference).2 :: spot.seen := by
    rw [Spot.seen, visits]
    rfl
  rw [resolve_eq_ok, seen] at made
  rw [value] at derivation
  cases derivation with
  | mapping plain => cases plain.symm.trans found
  | left otherFound otherEntered repeated =>
      cases found.symm.trans otherFound
      cases entered.symm.trans otherEntered
      exact absurd repeated fresh
  | other otherFound otherEntered _ otherSelected inner noMapping =>
      cases found.symm.trans otherFound
      cases entered.symm.trans otherEntered
      cases selected.symm.trans otherSelected
      have same := inner.unique made
      exact .inl ⟨same ▸ noMapping, same⟩
  | laid otherFound otherEntered _ otherSelected inner keys beside =>
      cases found.symm.trans otherFound
      cases entered.symm.trans otherEntered
      cases selected.symm.trans otherSelected
      exact .inr ⟨_, _, made.unique inner, rfl, keys, beside⟩

end

/-- A reference in what is copied stands where it comes to, with the siblings of other references
laid over its mapping. -/
theorem Comes.refersAt {spot origin : Spot} {position below : List Nat} {depth : Nat}
    {result : Value} {reference : String} (comes : Comes fetch spot position origin below)
    (derivation : Resolves (direct fetch) depth spot.scope spot.seen spot.value result)
    (copied : Copied fetch origin) (refers : RefersAt origin.value below reference) :
    RefersAt result position reference := by
  induction comes generalizing depth result with
  | plain plain => cases plain.symm.trans (refersAt_nil.1 refers)
  | copied => rwa [copied.eq_of_resolves derivation]
  | item value found _ ih =>
      rw [value] at derivation
      obtain ⟨left, rfl⟩ := List.getElem?_eq_some_iff.1 found
      cases derivation with
      | list length parts =>
          have inside := ih (parts _ left (length ▸ left)) copied refers
          exact refersAt_list.2 ⟨_, List.getElem?_eq_getElem _, inside⟩
  | entry value plain found _ ih =>
      rw [value] at derivation
      obtain ⟨left, rfl⟩ := List.getElem?_eq_some_iff.1 found
      cases derivation with
      | mapping _ keys values =>
          have length := congrArg List.length keys
          rw [List.length_map, List.length_map] at length
          have inside := ih (values _ left (length ▸ left)) copied refers
          exact refersAt_mapping.2 ⟨_, List.getElem?_eq_getElem _, inside⟩
      | left referring | other referring | laid referring => cases plain.symm.trans referring
  | @target _ _ _ _ _ _ _ position _ follows made own _ ih =>
      have inside := ih (resolve_eq_ok.1 made) copied refers
      rcases follows.cases_of_resolves derivation made with ⟨_, rfl⟩ | ⟨base, extra, rfl, rfl, keys,
        _⟩
      · exact inside
      · cases position with
        | nil =>
            rw [refersAt_nil, referenceOf] at inside ⊢
            rwa [reference?_putAll (beside_of_keys keys)]
        | cons index rest =>
            obtain ⟨entry, known, inside⟩ := refersAt_mapping.1 inside
            have kept := Entries.getElem?_putAll_of_uncovered keys known own
            exact refersAt_mapping.2 ⟨entry, kept, inside⟩
  | sibling follows made covered _ ih =>
      rcases follows.cases_of_resolves derivation made with ⟨noMapping, _⟩ | ⟨base, extra, rfl, rfl,
        keys, beside⟩
      · cases (covering_eq_none noMapping).symm.trans covered
      · have covers := Option.join_eq_some_iff.1 covered
        obtain ⟨entry, place, left, right, known, rfl, same⟩ :=
          Entries.exists_of_covered keys covers
        have inside := ih (beside place left right) copied refers
        exact refersAt_mapping.2 ⟨entry, known, same ▸ inside⟩

end RouteTypes.Reference
