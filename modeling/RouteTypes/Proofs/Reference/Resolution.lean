import RouteTypes.Proofs.Reference.Traversal

/-!
# Successful resolutions

What a resolution can do where it succeeds. The relation `Resolves` has one rule for every kind of
value and for every fate of a reference. It holds exactly where `resolve` succeeds
(`resolve_eq_ok`), and later modules argue by induction on its derivations.
-/

namespace RouteTypes.Reference

open Value

/-! ## Following a reference -/

section Following

variable {ε α : Type} {load : String → Resolve Id ε Value} {scope : Scope} {seen : List String}
variable {reference : String}

/-- What becomes of a reference: it is left because its target is being resolved already, or the
value that it leads to is resolved in its own document. -/
inductive Expansion (load : String → Resolve Id ε Value) (scope : Scope) (seen : List String)
    (reference : String) : Nat → Option Value → Prop where
  | left {depth : Nat} {target : Scope}
      (entered : enter load scope (split reference).1 = Except.ok target)
      (repeated : mark target.location (split reference).2 ∈ seen) :
      Expansion load scope seen reference (depth + 1) none
  | followed {depth : Nat} {target : Scope} {value result : Value}
      (entered : enter load scope (split reference).1 = Except.ok target)
      (fresh : mark target.location (split reference).2 ∉ seen)
      (selected : Pointer.resolve target.root (split reference).2 = .ok value)
      (resolved : resolve load depth target (mark target.location (split reference).2 :: seen)
        value = Except.ok result) :
      Expansion load scope seen reference (depth + 1) (some result)

@[simp]
theorem lift_mapError_eq_ok {γ : Type} {result : Except γ α} {cause : γ → Fault ε} {value : α} :
    (lift (result.mapError cause) : Resolve Id ε α) = Except.ok value ↔ result = .ok value := by
  cases result with
  | error fault =>
      constructor
      · intro impossible
        cases impossible
      · intro impossible
        cases impossible
  | ok found =>
      constructor
      · intro equal
        exact congrArg _ (Except.ok.inj equal)
      · intro equal
        cases equal
        rfl

theorem expand_eq_ok {depth : Nat} {outcome : Option Value} :
    expand load depth scope seen reference = Except.ok outcome ↔
      Expansion load scope seen reference depth outcome := by
  cases depth with
  | zero =>
      constructor
      · intro impossible
        cases impossible
      · intro impossible
        cases impossible
  | succ depth =>
      rw [expand_succ, bind_eq_ok]
      constructor
      · intro targets
        rcases targets with ⟨target, entered, rest⟩
        split at rest
        next repeated =>
          rw [pure_eq_ok] at rest
          subst rest
          exact .left entered (by simpa using repeated)
        next fresh =>
          rw [bind_eq_ok] at rest
          obtain ⟨value, selected, rest⟩ := rest
          rw [map_eq_ok] at rest
          obtain ⟨result, resolved, rfl⟩ := rest
          exact .followed entered (by simpa using fresh) (lift_mapError_eq_ok.1 selected) resolved
      · intro expansion
        cases expansion with
        | @left _ target entered repeated =>
            refine ⟨target, entered, ?_⟩
            rw [if_pos (by simpa using repeated)]
            rfl
        | @followed _ target value result entered fresh selected resolved =>
            refine ⟨target, entered, ?_⟩
            rw [if_neg (by simpa using fresh), bind_eq_ok]
            refine ⟨value, lift_mapError_eq_ok.2 selected, ?_⟩
            rw [map_eq_ok]
            exact ⟨result, resolved, rfl⟩

/-! ## Derivations -/

/-- Derivations of successful resolutions, one rule for every kind of value and for every fate of
a reference: it is left, its target is no mapping and takes its place, or its target is a mapping
over which the siblings are laid. -/
inductive Resolves (load : String → Resolve Id ε Value) :
    Nat → Scope → List String → Value → Value → Prop where
  | scalar {depth : Nat} {scope : Scope} {seen : List String} (value : Scalar) :
      Resolves load depth scope seen (.scalar value) (.scalar value)
  | tuple {depth : Nat} {scope : Scope} {seen : List String} (items : List Value) :
      Resolves load depth scope seen (.tuple items) (.tuple items)
  | set {depth : Nat} {scope : Scope} {seen : List String} (items : List Scalar) :
      Resolves load depth scope seen (.set items) (.set items)
  | list {depth : Nat} {scope : Scope} {seen : List String} {items results : List Value}
      (length : items.length = results.length)
      (parts : ∀ (index : Nat) (left : index < items.length) (right : index < results.length),
        Resolves load depth scope seen items[index] results[index]) :
      Resolves load depth scope seen (.list items) (.list results)
  | mapping {depth : Nat} {scope : Scope} {seen : List String} {entries results : Entries}
      (plain : reference? entries = none)
      (keys : entries.map Prod.fst = results.map Prod.fst)
      (values : ∀ (index : Nat) (left : index < entries.length) (right : index < results.length),
        Resolves load depth scope seen entries[index].2 results[index].2) :
      Resolves load depth scope seen (.mapping entries) (.mapping results)
  | left {depth : Nat} {scope target : Scope} {seen : List String} {entries : Entries}
      {reference : String} (found : reference? entries = some reference)
      (entered : enter load scope (split reference).1 = Except.ok target)
      (repeated : mark target.location (split reference).2 ∈ seen) :
      Resolves load (depth + 1) scope seen (.mapping entries) (.mapping entries)
  | other {depth : Nat} {scope target : Scope} {seen : List String} {entries : Entries}
      {reference : String} {value result : Value} (found : reference? entries = some reference)
      (entered : enter load scope (split reference).1 = Except.ok target)
      (fresh : mark target.location (split reference).2 ∉ seen)
      (selected : Pointer.resolve target.root (split reference).2 = .ok value)
      (inner : Resolves load depth target (mark target.location (split reference).2 :: seen)
        value result)
      (noMapping : ∀ entries, result ≠ .mapping entries) :
      Resolves load (depth + 1) scope seen (.mapping entries) result
  | laid {depth : Nat} {scope target : Scope} {seen : List String} {entries base extra : Entries}
      {reference : String} {value : Value} (found : reference? entries = some reference)
      (entered : enter load scope (split reference).1 = Except.ok target)
      (fresh : mark target.location (split reference).2 ∉ seen)
      (selected : Pointer.resolve target.root (split reference).2 = .ok value)
      (inner : Resolves load depth target (mark target.location (split reference).2 :: seen)
        value (.mapping base))
      (keys : (siblings entries).map Prod.fst = extra.map Prod.fst)
      (beside : ∀ (index : Nat) (left : index < (siblings entries).length)
        (right : index < extra.length),
        Resolves load (depth + 1) scope seen (siblings entries)[index].2 extra[index].2) :
      Resolves load (depth + 1) scope seen (.mapping entries)
        (.mapping (Entries.putAll base extra))

theorem forall₂_iff_getElem {α β : Type} {related : α → β → Prop} {left : List α}
    {right : List β} :
    List.Forall₂ related left right ↔ left.length = right.length ∧
      ∀ (index : Nat) (inLeft : index < left.length) (inRight : index < right.length),
        related left[index] right[index] :=
  List.forall₂_iff_get

theorem onValues_iff_getElem {related : Value → Value → Prop} {left right : Entries} :
    List.Forall₂ (OnValues related) left right ↔ left.map Prod.fst = right.map Prod.fst ∧
      ∀ (index : Nat) (inLeft : index < left.length) (inRight : index < right.length),
        related left[index].2 right[index].2 := by
  rw [forall₂_iff_getElem]
  constructor
  · intro given
    rcases given with ⟨length, parts⟩
    refine ⟨keys_eq_of_onValues (forall₂_iff_getElem.2 ⟨length, parts⟩), ?_⟩
    exact fun index inLeft inRight => (parts index inLeft inRight).2
  · intro given
    rcases given with ⟨keys, values⟩
    have length : left.length = right.length := by simpa using congrArg List.length keys
    refine ⟨length, fun index inLeft inRight => ⟨?_, values index inLeft inRight⟩⟩
    have same := List.getElem_of_eq keys (by simpa using inLeft)
    simpa using same

theorem Resolves.ofEntries {depth : Nat} {entries results : Entries}
    (plain : reference? entries = none)
    (parts : List.Forall₂ (OnValues (Resolves load depth scope seen)) entries results) :
    Resolves load depth scope seen (.mapping entries) (.mapping results) :=
  .mapping plain (onValues_iff_getElem.1 parts).1 (onValues_iff_getElem.1 parts).2

/-- What succeeds has a derivation. The induction is on how many references may still be followed
into each other and, for each such number, on the parts of the value. -/
theorem resolves_of_resolve {depth : Nat} {value result : Value}
    (success : resolve load depth scope seen value = Except.ok result) :
    Resolves load depth scope seen value result := by
  induction depth using Nat.strongRecOn generalizing scope seen value result with
  | ind depth shallower =>
      induction value using inductionOnParts generalizing result with
      | scalar value =>
          rw [resolve, resolveTree, pure_eq_ok] at success
          exact success ▸ .scalar value
      | tuple items =>
          rw [resolve, resolveTree, pure_eq_ok] at success
          exact success ▸ .tuple items
      | set items =>
          rw [resolve, resolveTree, pure_eq_ok] at success
          exact success ▸ .set items
      | list items ih =>
          obtain ⟨results, rfl, parts⟩ := resolveTree_list_eq_ok.1 success
          have derived := forall₂_iff_getElem.1
            (forall₂_imp_of_mem (fun item member other => ih item member) parts)
          exact .list derived.1 derived.2
      | mapping entries ih =>
          cases found : reference? entries with
          | none =>
              obtain ⟨results, rfl, parts⟩ := (resolveTree_mapping_eq_ok found).1 success
              exact .ofEntries found (forall₂_imp_of_mem
                (fun entry member other inner => ⟨inner.1, ih entry member inner.2⟩) parts)
          | some reference =>
              obtain ⟨outcome, expansion, replaced⟩ :=
                (resolveTree_reference_eq_ok found).1 success
              rw [expand_eq_ok] at expansion
              cases expansion with
              | left entered repeated =>
                  cases replaced with
                  | left => exact .left found entered repeated
              | followed entered fresh selected resolved =>
                  have inner := shallower _ (Nat.lt_succ_self _) resolved
                  cases replaced with
                  | other noMapping => exact .other found entered fresh selected inner noMapping
                  | laid parts =>
                      have derived := onValues_iff_getElem.1 (forall₂_imp_of_mem
                        (fun entry member other inside =>
                          ⟨inside.1, ih entry (mem_siblings.1 member).1 inside.2⟩) parts)
                      exact .laid found entered fresh selected inner derived.1 derived.2

/-- What has a derivation succeeds. -/
theorem Resolves.resolve_eq {depth : Nat} {value result : Value}
    (derivation : Resolves load depth scope seen value result) :
    resolve load depth scope seen value = Except.ok result := by
  induction derivation with
  | scalar | tuple | set =>
      rw [resolve, resolveTree]
      rfl
  | list length _ ih =>
      exact resolveTree_list_eq_ok.2 ⟨_, rfl, forall₂_iff_getElem.2 ⟨length, ih⟩⟩
  | mapping plain keys _ ih =>
      exact (resolveTree_mapping_eq_ok plain).2 ⟨_, rfl, onValues_iff_getElem.2 ⟨keys, ih⟩⟩
  | left found entered repeated =>
      exact (resolveTree_reference_eq_ok found).2
        ⟨none, expand_eq_ok.2 (.left entered repeated), .left⟩
  | other found entered fresh selected _ noMapping ih =>
      exact (resolveTree_reference_eq_ok found).2
        ⟨_, expand_eq_ok.2 (.followed entered fresh selected ih), .other noMapping⟩
  | laid found entered fresh selected _ keys _ ih besideIH =>
      exact (resolveTree_reference_eq_ok found).2
        ⟨_, expand_eq_ok.2 (.followed entered fresh selected ih),
          .laid (onValues_iff_getElem.2 ⟨keys, besideIH⟩)⟩

/-- The resolutions that succeed are those that have a derivation. -/
theorem resolve_eq_ok {depth : Nat} {value result : Value} :
    resolve load depth scope seen value = Except.ok result ↔
      Resolves load depth scope seen value result :=
  ⟨resolves_of_resolve, Resolves.resolve_eq⟩

/-- A scalar comes only from a scalar or from a reference. -/
theorem eq_scalar_of_resolves {depth : Nat} {value : Value} {scalar : Scalar}
    (plain : referenceOf value = none)
    (derivation : Resolves load depth scope seen value (.scalar scalar)) :
    value = .scalar scalar := by
  cases derivation with
  | scalar => rfl
  | other found => cases found.symm.trans plain

/-- A mapping that refers to nothing, and holds no reference under the key of references, does
not become a reference. -/
theorem reference?_of_resolves {depth : Nat} {entries results : Entries}
    (plain : reference? entries = none)
    (unnested : ∀ held, Entries.get? entries referenceKey = some held → referenceOf held = none)
    (parts : List.Forall₂ (OnValues (Resolves load depth scope seen)) entries results) :
    reference? results = none := by
  rw [Option.eq_none_iff_forall_ne_some]
  intro reference found
  obtain ⟨result, foundResult, isText⟩ := reference?_eq_some.1 found
  obtain ⟨held, foundHeld, derivation⟩ := get?_of_onValues (onValues_swap parts) foundResult
  obtain ⟨scalar, rfl⟩ := scalar_of_textOf? isText
  rw [eq_scalar_of_resolves (unnested held foundHeld) derivation] at foundHeld
  cases plain.symm.trans (reference?_eq_some.2 ⟨_, foundHeld, isText⟩)

/-- More references may be followed into each other than are. -/
theorem Resolves.mono {depth deeper : Nat} {value result : Value}
    (derivation : Resolves load depth scope seen value result) (le : depth ≤ deeper) :
    Resolves load deeper scope seen value result := by
  induction derivation generalizing deeper with
  | scalar value => exact .scalar value
  | tuple items => exact .tuple items
  | set items => exact .set items
  | list length _ ih => exact .list length fun index left right => ih index left right le
  | mapping plain keys _ ih =>
      exact .mapping plain keys fun index left right => ih index left right le
  | left found entered repeated =>
      obtain ⟨deeper, rfl⟩ := Nat.exists_eq_add_of_le' (Nat.le_trans (Nat.succ_pos _) le)
      exact .left found entered repeated
  | other found entered fresh selected _ noMapping ih =>
      obtain ⟨deeper, rfl⟩ := Nat.exists_eq_add_of_le' (Nat.le_trans (Nat.succ_pos _) le)
      exact .other found entered fresh selected (ih (Nat.le_of_succ_le_succ le)) noMapping
  | laid found entered fresh selected _ keys _ ih besideIH =>
      obtain ⟨deeper, rfl⟩ := Nat.exists_eq_add_of_le' (Nat.le_trans (Nat.succ_pos _) le)
      exact .laid found entered fresh selected (ih (Nat.le_of_succ_le_succ le)) keys
        fun index left right => besideIH index left right le

/-- However many references may be followed into each other, there is one result. -/
theorem Resolves.unique {depth other : Nat} {value first second : Value}
    (derivation : Resolves load depth scope seen value first)
    (otherDerivation : Resolves load other scope seen value second) : first = second := by
  have left := (derivation.mono (Nat.le_max_left depth other)).resolve_eq
  have right := (otherDerivation.mono (Nat.le_max_right depth other)).resolve_eq
  exact Except.ok.inj (left.symm.trans right)

end Following

end RouteTypes.Reference
