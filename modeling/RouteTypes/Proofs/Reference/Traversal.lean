import RouteTypes.Proofs.Reference.Standing
import RouteTypes.Proofs.Value.Entries
import Mathlib.Data.List.Forall2

/-!
# The traversal of a value

What `resolveTree` makes of a value, given what becomes of its references. It leaves a value
without references as it is (`resolveTree_of_plain`). Where it succeeds, the result has the shape of
the value, except at references (`resolveTree_mapping_eq_ok`).
-/

namespace RouteTypes.Reference

open Value

@[simp] theorem mem_siblings {entries : Entries} {entry : Scalar × Value} :
    entry ∈ siblings entries ↔ entry ∈ entries ∧ entry.1 ≠ referenceKey := by
  simp [siblings, referenceKey, Bool.eq_false_iff]

/-- What has the keys of the siblings of a reference does not touch the key of references. -/
theorem beside_of_keys {entries extra : Entries}
    (keys : (siblings entries).map Prod.fst = extra.map Prod.fst) :
    ∀ entry ∈ extra, entry.1 ≠ referenceKey := by
  intro entry member
  have inKeys : entry.1 ∈ extra.map Prod.fst := List.mem_map_of_mem member
  rw [← keys, List.mem_map] at inKeys
  obtain ⟨sibling, isSibling, same⟩ := inKeys
  rw [← same]
  exact (mem_siblings.1 isSibling).2

/-! ## In any monad -/

section Monadic

variable {m : Type → Type} [Monad m]

theorem expand_succ (load : String → Resolve m ε Value) (depth : Nat) (scope : Scope)
    (seen : List String) (reference : String) :
    expand load (depth + 1) scope seen reference = (do
      let target ← enter load scope (split reference).1
      if seen.contains (mark target.location (split reference).2) then return none
      let value ← lift
        ((Pointer.resolve target.root (split reference).2).mapError (.pointer reference))
      some <$> resolveTree
        (expand load depth target (mark target.location (split reference).2 :: seen)) value) :=
  rfl

/-- The values beside a reference are resolved like those of a mapping without one. -/
theorem resolveSiblings_eq (expand : String → m (Option Value)) (entries : Entries) :
    resolveSiblings expand entries = resolveEntries expand (siblings entries) := by
  induction entries with
  | nil => simp [resolveSiblings, resolveEntries, siblings]
  | cons entry rest ih =>
      obtain ⟨key, value⟩ := entry
      rw [resolveSiblings]
      by_cases isReference : key.same referenceKey = true
      · have dropped : siblings ((key, value) :: rest) = siblings rest := by
          simp [siblings, isReference]
        rw [if_pos isReference, dropped, ih]
      · have kept : siblings ((key, value) :: rest) = (key, value) :: siblings rest := by
          simp [siblings, isReference]
        rw [if_neg isReference, kept, resolveEntries, ih]

variable [LawfulMonad m]

theorem resolveItems_of_plain (expand : String → m (Option Value)) {items : List Value}
    (plain : ∀ item ∈ items, resolveTree expand item = pure item) :
    resolveItems expand items = pure items := by
  induction items with
  | nil => simp [resolveItems]
  | cons item rest ih =>
      rw [resolveItems, plain item List.mem_cons_self,
        ih fun other member => plain other (List.mem_cons_of_mem _ member)]
      simp

theorem resolveEntries_of_plain (expand : String → m (Option Value)) {entries : Entries}
    (plain : ∀ entry ∈ entries, resolveTree expand entry.2 = pure entry.2) :
    resolveEntries expand entries = pure entries := by
  induction entries with
  | nil => simp [resolveEntries]
  | cons entry rest ih =>
      obtain ⟨key, value⟩ := entry
      rw [resolveEntries, plain (key, value) List.mem_cons_self,
        ih fun other member => plain other (List.mem_cons_of_mem _ member)]
      simp

/-- A value without references is left as it is. -/
theorem resolveTree_of_plain (expand : String → m (Option Value)) (value : Value)
    (plain : ∀ reference, ¬Refers value reference) :
    resolveTree expand value = pure value := by
  induction value using inductionOnParts with
  | scalar | tuple | set => simp [resolveTree]
  | list items ih =>
      rw [resolveTree, resolveItems_of_plain expand fun item member =>
        ih item member fun reference refers => plain reference (.ofItem member refers)]
      simp
  | mapping entries ih =>
      rw [resolveTree]
      split
      next =>
        rw [resolveEntries_of_plain expand fun entry member =>
          ih entry member fun reference refers => plain reference (.ofEntry member refers)]
        simp
      next reference found => exact absurd (.here found) (plain reference)

end Monadic

/-! ## Without effects -/

section Direct

variable {ε α β : Type}

theorem bind_eq_ok {step : Resolve Id ε α} {next : α → Resolve Id ε β} {result : β} :
    (step >>= next) = Except.ok result ↔
      ∃ value, step = Except.ok value ∧ next value = Except.ok result := by
  constructor
  · intro success
    cases step with
    | error fault => cases success
    | ok value => exact ⟨value, rfl, success⟩
  · intro given
    rcases given with ⟨value, rfl, success⟩
    exact success

theorem map_eq_ok {step : Resolve Id ε α} {image : α → β} {result : β} :
    (image <$> step) = Except.ok result ↔
      ∃ value, step = Except.ok value ∧ image value = result := by
  rw [← bind_pure_comp, bind_eq_ok]
  constructor
  · intro given
    rcases given with ⟨value, success, equal⟩
    exact ⟨value, success, Except.ok.inj equal⟩
  · intro given
    rcases given with ⟨value, success, rfl⟩
    exact ⟨value, success, rfl⟩

theorem pure_eq_ok {value result : α} :
    (pure value : Resolve Id ε α) = Except.ok result ↔ value = result :=
  ⟨Except.ok.inj, congrArg _⟩

variable {expand : String → Resolve Id ε (Option Value)}

/-- Two entries have the same key, and their values are related. -/
def OnValues (related : Value → Value → Prop) (left right : Scalar × Value) : Prop :=
  left.1 = right.1 ∧ related left.2 right.2

/-- Pairs of related members are related in another way, where members of the first list are. -/
theorem forall₂_imp_of_mem {α β : Type} {first second : α → β → Prop} {left : List α}
    {right : List β} (imp : ∀ item ∈ left, ∀ other, first item other → second item other)
    (parts : List.Forall₂ first left right) : List.Forall₂ second left right := by
  induction parts with
  | nil => exact .nil
  | cons head _ ih =>
      refine .cons (imp _ List.mem_cons_self _ head) (ih ?_)
      exact fun item member => imp item (List.mem_cons_of_mem _ member)

theorem keys_eq_of_onValues {related : Value → Value → Prop} {left right : Entries}
    (parts : List.Forall₂ (OnValues related) left right) :
    left.map Prod.fst = right.map Prod.fst := by
  induction parts with
  | nil => rfl
  | cons head _ ih => rw [List.map_cons, List.map_cons, head.1, ih]

theorem onValues_swap {related : Value → Value → Prop} {left right : Entries}
    (parts : List.Forall₂ (OnValues related) left right) :
    List.Forall₂ (OnValues fun second first => related first second) right left := by
  induction parts with
  | nil => exact .nil
  | cons head _ ih => exact .cons ⟨head.1.symm, head.2⟩ ih

/-- What stands under a key of mappings with related values. -/
theorem rel_get? {related : Value → Value → Prop} {left right : Entries}
    (parts : List.Forall₂ (OnValues related) left right) (key : Scalar) :
    Option.Rel related (Entries.get? left key) (Entries.get? right key) := by
  induction parts with
  | nil => exact .none
  | cons head _ ih =>
      rw [Entries.get?_cons, Entries.get?_cons, ← head.1]
      split
      next => exact .some head.2
      next => exact ih

theorem get?_of_onValues {related : Value → Value → Prop} {left right : Entries}
    (parts : List.Forall₂ (OnValues related) left right) {key : Scalar} {value : Value}
    (found : Entries.get? left key = some value) :
    ∃ other, Entries.get? right key = some other ∧ related value other := by
  have same := rel_get? parts key
  rw [found] at same
  generalize Entries.get? right key = selected at same
  cases same with
  | some held => exact ⟨_, rfl, held⟩

@[simp] theorem resolveItems_eq_ok {items results : List Value} :
    resolveItems expand items = Except.ok results ↔
      List.Forall₂ (fun item result => resolveTree expand item = Except.ok result)
        items results := by
  induction items generalizing results with
  | nil =>
      rw [resolveItems, pure_eq_ok, List.forall₂_nil_left_iff]
      exact eq_comm
  | cons item rest ih =>
      simp only [resolveItems, bind_eq_ok, pure_eq_ok, ih, List.forall₂_cons_left_iff]
      constructor
      · intro given
        rcases given with ⟨value, first, values, others, rfl⟩
        exact ⟨value, values, first, others, rfl⟩
      · intro given
        rcases given with ⟨value, values, first, others, rfl⟩
        exact ⟨value, first, values, others, rfl⟩

@[simp] theorem resolveEntries_eq_ok {entries results : Entries} :
    resolveEntries expand entries = Except.ok results ↔
      List.Forall₂ (OnValues fun value result => resolveTree expand value = Except.ok result)
        entries results := by
  induction entries generalizing results with
  | nil =>
      rw [resolveEntries, pure_eq_ok, List.forall₂_nil_left_iff]
      exact eq_comm
  | cons entry rest ih =>
      obtain ⟨key, value⟩ := entry
      simp only [resolveEntries, bind_eq_ok, pure_eq_ok, ih, List.forall₂_cons_left_iff]
      constructor
      · intro given
        rcases given with ⟨result, first, results, others, rfl⟩
        exact ⟨(key, result), results, ⟨rfl, first⟩, others, rfl⟩
      · intro given
        rcases given with ⟨⟨_, result⟩, results, ⟨rfl, first⟩, others, rfl⟩
        exact ⟨result, first, results, others, rfl⟩

@[simp] theorem resolveTree_list_eq_ok {items : List Value} {result : Value} :
    resolveTree expand (.list items) = Except.ok result ↔
      ∃ results, result = .list results ∧
        List.Forall₂ (fun item result => resolveTree expand item = Except.ok result)
          items results := by
  simp only [resolveTree, map_eq_ok, resolveItems_eq_ok]
  constructor
  · intro given
    rcases given with ⟨results, resolved, rfl⟩
    exact ⟨results, rfl, resolved⟩
  · intro given
    rcases given with ⟨results, rfl, resolved⟩
    exact ⟨results, resolved, rfl⟩

/-- A mapping without a reference keeps its keys, and its values are resolved. -/
theorem resolveTree_mapping_eq_ok {entries : Entries} {result : Value}
    (plain : reference? entries = none) :
    resolveTree expand (.mapping entries) = Except.ok result ↔
      ∃ results, result = .mapping results ∧
        List.Forall₂ (OnValues fun value result => resolveTree expand value = Except.ok result)
          entries results := by
  simp only [resolveTree, plain, map_eq_ok, resolveEntries_eq_ok]
  constructor
  · intro given
    rcases given with ⟨results, resolved, rfl⟩
    exact ⟨results, rfl, resolved⟩
  · intro given
    rcases given with ⟨results, rfl, resolved⟩
    exact ⟨results, resolved, rfl⟩

/-- Siblings laid over a mapping leave its reference alone. -/
theorem reference?_putAll {target extra : Entries}
    (beside : ∀ entry ∈ extra, entry.1 ≠ referenceKey) :
    reference? (Entries.putAll target extra) = reference? target := by
  unfold reference?
  rw [referenceKey, Entries.get?_putAll_of_ne beside]

/-- What becomes of a mapping with a reference once it is known what becomes of the reference:
the mapping itself, a value that is no mapping, or a mapping with the siblings laid over it. -/
inductive Replaced (expand : String → Resolve Id ε (Option Value)) (entries : Entries) :
    Option Value → Value → Prop where
  | left : Replaced expand entries none (.mapping entries)
  | other {target : Value} (noMapping : ∀ entries, target ≠ .mapping entries) :
      Replaced expand entries (some target) target
  | laid {target extra : Entries}
      (resolved : List.Forall₂
        (OnValues fun value result => resolveTree expand value = Except.ok result)
        (siblings entries) extra) :
      Replaced expand entries (some (.mapping target)) (.mapping (Entries.putAll target extra))

/-- A mapping with a reference is replaced. -/
theorem resolveTree_reference_eq_ok {entries : Entries} {reference : String} {result : Value}
    (found : reference? entries = some reference) :
    resolveTree expand (.mapping entries) = Except.ok result ↔
      ∃ target, expand reference = Except.ok target ∧
        Replaced expand entries target result := by
  simp only [resolveTree, found, bind_eq_ok]
  refine exists_congr fun target => and_congr_right fun _ => ?_
  match target with
  | none =>
      rw [pure_eq_ok]
      constructor
      · intro equal
        subst equal
        exact .left
      · intro equal
        cases equal
        rfl
  | some (.mapping target) =>
      dsimp only
      split
      next empty =>
        rw [pure_eq_ok]
        have none : siblings entries = [] := by simpa using empty
        constructor
        · intro equal
          subst equal
          have resolved : List.Forall₂
              (OnValues fun value result => resolveTree expand value = Except.ok result)
              (siblings entries) [] := by
            rw [none]
            exact .nil
          exact .laid resolved
        · intro replaced
          cases replaced with
          | other noMapping => exact absurd rfl (noMapping target)
          | laid resolved =>
              rw [none, List.forall₂_nil_left_iff] at resolved
              rw [resolved, Entries.putAll_nil]
      next =>
        rw [resolveSiblings_eq, map_eq_ok]
        simp only [resolveEntries_eq_ok]
        constructor
        · intro given
          rcases given with ⟨extra, resolved, rfl⟩
          exact .laid resolved
        · intro replaced
          cases replaced with
          | other noMapping => exact absurd rfl (noMapping target)
          | laid resolved => exact ⟨_, resolved, rfl⟩
  | some (.scalar value) | some (.list items) | some (.tuple items) | some (.set items) =>
      dsimp only
      rw [pure_eq_ok]
      constructor
      · intro equal
        subst equal
        exact .other (by simp)
      · intro equal
        cases equal
        rfl

end Direct

end RouteTypes.Reference
