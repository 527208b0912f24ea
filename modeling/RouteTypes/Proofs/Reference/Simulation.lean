import RouteTypes.Proofs.Reference.Traversal
import RouteTypes.Proofs.Run

/-!
# Resolutions side by side

The traversal of a value is the same in every monad, so two resolutions that are related at every
reference are related as a whole (`MonadRelation.tree`), for any relation that goes along with the
steps of a computation. If it holds between equal failures too, resolutions are related where they
are at every location that they load (`MonadRelation.resolve`).

One such relation is used for the states that a resolution may carry along: documents that have
been loaded, or an account of what it does. `Simulates` says that the state does not show in the
result and that a property of states is kept.
-/

namespace RouteTypes.Reference

open Value

/-- A relation between the computations of two monads that goes along with their steps. -/
structure MonadRelation (m n : Type → Type) [Monad m] [Monad n] where
  relates : {α : Type} → m α → n α → Prop
  pure {α : Type} (value : α) : relates (Pure.pure value : m α) (Pure.pure value)
  bind {α β : Type} {first : m α} {second : n α} {next : α → m β} {other : α → n β}
    (steps : relates first second) (after : ∀ value, relates (next value) (other value)) :
    relates (first >>= next) (second >>= other)

namespace MonadRelation

variable {m n : Type → Type} [Monad m] [Monad n] (relation : MonadRelation m n)
variable {first : String → m (Option Value)} {second : String → n (Option Value)}

theorem items {values others : List Value}
    (each : List.Forall₂
      (fun value other => relation.relates (resolveTree first value) (resolveTree second other))
      values others) :
    relation.relates (resolveItems first values) (resolveItems second others) := by
  induction each with
  | nil =>
      rw [resolveItems, resolveItems]
      exact relation.pure []
  | cons head _ ih =>
      rw [resolveItems, resolveItems]
      exact relation.bind head fun result =>
        relation.bind ih fun results => relation.pure (result :: results)

theorem entries {values others : Entries}
    (each : List.Forall₂
      (OnValues fun value other =>
        relation.relates (resolveTree first value) (resolveTree second other))
      values others) :
    relation.relates (resolveEntries first values) (resolveEntries second others) := by
  induction each with
  | nil =>
      rw [resolveEntries, resolveEntries]
      exact relation.pure []
  | @cons left right _ _ head _ ih =>
      obtain ⟨key, value⟩ := left
      obtain ⟨_, other⟩ := right
      obtain ⟨rfl, values⟩ := head
      rw [resolveEntries, resolveEntries]
      exact relation.bind values fun result =>
        relation.bind ih fun results => relation.pure ((key, result) :: results)

variable [LawfulMonad m] [LawfulMonad n]

theorem map {α β : Type} {left : m α} {right : n α} (image : α → β)
    (steps : relation.relates left right) :
    relation.relates (image <$> left) (image <$> right) := by
  rw [← bind_pure_comp, ← bind_pure_comp]
  exact relation.bind steps fun value => relation.pure (image value)

/-- Traversals of a value are related where they are at the references that stand in it. -/
theorem tree {value : Value} (expanded : ∀ reference, Refers value reference →
      relation.relates (first reference) (second reference)) :
    relation.relates (resolveTree first value) (resolveTree second value) := by
  induction value using inductionOnParts with
  | scalar | tuple | set =>
      rw [resolveTree, resolveTree]
      exact relation.pure _
  | list values ih =>
      rw [resolveTree, resolveTree]
      refine relation.map _ (relation.items (List.forall₂_same.2 fun item member => ?_))
      exact ih item member fun reference refers => expanded reference (.ofItem member refers)
  | mapping values ih =>
      have inside (entry : Scalar × Value) (member : entry ∈ values) :
          OnValues (fun value other =>
            relation.relates (resolveTree first value) (resolveTree second other)) entry entry :=
        ⟨rfl, ih entry member fun reference refers => expanded reference (.ofEntry member refers)⟩
      rw [resolveTree, resolveTree]
      split
      next => exact relation.map _ (relation.entries (List.forall₂_same.2 inside))
      next reference found =>
        refine relation.bind (expanded reference (.here found)) fun target => ?_
        cases target with
        | none => exact relation.pure _
        | some target =>
            cases target with
            | scalar | list | tuple | set => exact relation.pure _
            | mapping target =>
                rw [resolveSiblings_eq, resolveSiblings_eq]
                dsimp only
                split
                next => exact relation.pure _
                next =>
                  refine relation.map _ (relation.entries (List.forall₂_same.2 ?_))
                  exact fun entry member => inside entry (mem_siblings.1 member).1

end MonadRelation

/-! ## References that are followed -/

section Following

variable {m n : Type → Type} [Monad m] [Monad n] {ε : Type}
variable (relation : MonadRelation (Resolve m ε) (Resolve n ε))

/-- The same failure of both sides is related. -/
def MonadRelation.Throws : Prop :=
  ∀ {α : Type} (fault : Fault ε), relation.relates (throw fault : Resolve m ε α) (throw fault)

namespace MonadRelation

variable {relation} {first : String → Resolve m ε Value} {second : String → Resolve n ε Value}

theorem lift {α : Type} (throws : relation.Throws) (result : Except (Fault ε) α) :
    relation.relates (Reference.lift result) (Reference.lift result) := by
  cases result with
  | ok value => exact relation.pure value
  | error fault => exact throws fault

theorem enter (throws : relation.Throws)
    (loaded : ∀ location, relation.relates (first location) (second location))
    (scope : Scope) (location : String) :
    relation.relates (Reference.enter first scope location)
      (Reference.enter second scope location) := by
  unfold Reference.enter
  split
  next => exact relation.pure scope
  next =>
    exact relation.bind (lift throws _) fun target =>
      relation.bind (loaded target) fun document => relation.pure _

/-- Resolutions are related where they are at the locations that they load. -/
theorem expand [LawfulMonad m] [LawfulMonad n] (throws : relation.Throws)
    (loaded : ∀ location, relation.relates (first location) (second location))
    (depth : Nat) (scope : Scope) (seen : List String) (reference : String) :
    relation.relates (Reference.expand first depth scope seen reference)
      (Reference.expand second depth scope seen reference) := by
  induction depth generalizing scope seen reference with
  | zero => exact throws .tooDeep
  | succ depth ih =>
      rw [expand_succ, expand_succ]
      refine relation.bind (enter throws loaded scope _) fun target => ?_
      split
      next => exact relation.pure none
      next =>
        refine relation.bind (lift throws _) fun value => ?_
        exact relation.map some (relation.tree fun reference _ => ih target _ reference)

theorem resolve [LawfulMonad m] [LawfulMonad n] (throws : relation.Throws)
    (loaded : ∀ location, relation.relates (first location) (second location))
    (depth : Nat) (scope : Scope) (seen : List String) (value : Value) :
    relation.relates (Reference.resolve first depth scope seen value)
      (Reference.resolve second depth scope seen value) :=
  relation.tree fun reference _ => expand throws loaded depth scope seen reference

end MonadRelation

end Following

/-! ## A state beside a resolution -/

variable {σ ε α β : Type} {kept : σ → Prop}

/-- From every state with a property a computation gives the result of one without a state, and
leaves a state with this property behind. -/
def Simulates (kept : σ → Prop) (stateful : Resolve (StateM σ) ε α) (plain : Resolve Id ε α) :
    Prop :=
  ∀ state, kept state →
    (stateful.run.run state).1 = plain ∧ kept (stateful.run.run state).2

namespace Simulates

theorem pure (value : α) : Simulates (ε := ε) kept (Pure.pure value) (Pure.pure value) :=
  fun _ holds => ⟨rfl, holds⟩

theorem throw (fault : Fault ε) :
    Simulates (α := α) kept (MonadExcept.throw fault) (MonadExcept.throw fault) :=
  fun _ holds => ⟨rfl, holds⟩

theorem bindOf {stateful : Resolve (StateM σ) ε α} {plain : Resolve Id ε α}
    {next : α → Resolve (StateM σ) ε β} {plainNext : α → Resolve Id ε β}
    (first : Simulates kept stateful plain)
    (second : ∀ value, plain = Except.ok value → Simulates kept (next value) (plainNext value)) :
    Simulates kept (stateful >>= next) (plain >>= plainNext) := by
  intro state holds
  obtain ⟨same, after⟩ := first state holds
  cases ran : stateful.run.run state with
  | mk result between =>
      rw [ran] at same after
      subst same
      cases result with
      | error fault =>
          rw [run_bind_error ran]
          exact ⟨rfl, after⟩
      | ok value =>
          rw [run_bind_ok ran]
          exact second value rfl between after

/-- A change of the state alone does not show. -/
theorem afterModify {change : σ → σ} {stateful : Resolve (StateM σ) ε α} {plain : Resolve Id ε α}
    (keeps : ∀ state, kept state → kept (change state)) (step : Simulates kept stateful plain) :
    Simulates kept (do modify change; stateful) plain :=
  fun state holds => step (change state) (keeps state holds)

/-- Carrying a state along goes along with the steps of a resolution. -/
def relation (kept : σ → Prop) (ε : Type) :
    MonadRelation (Resolve (StateM σ) ε) (Resolve Id ε) where
  relates := Simulates kept
  pure := pure
  bind first second := bindOf first fun value _ => second value

theorem throws : (relation kept ε).Throws :=
  throw

theorem lift (result : Except (Fault ε) α) :
    Simulates kept (Reference.lift result) (Reference.lift result) :=
  MonadRelation.lift throws result

theorem enter {stateful : String → Resolve (StateM σ) ε Value}
    {plain : String → Resolve Id ε Value}
    (loaded : ∀ location, Simulates kept (stateful location) (plain location))
    (scope : Scope) (location : String) :
    Simulates kept (Reference.enter stateful scope location)
      (Reference.enter plain scope location) :=
  MonadRelation.enter throws loaded scope location

end Simulates

end RouteTypes.Reference
