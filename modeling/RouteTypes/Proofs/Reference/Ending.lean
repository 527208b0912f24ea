import RouteTypes.Proofs.Reference.Branch
import RouteTypes.Proofs.Reference.Cache

/-!
# Resolutions end

A resolution that may follow sufficiently many references into each other is not stopped. More
than there are marks are never needed (`resolve_ne_tooDeep`), and once a resolution is not stopped,
being allowed more does not change what comes out (`dereference_ends`).
-/

namespace RouteTypes.Reference

open Value

variable {ε α β : Type} {fetch : String → Except ε Value} {root scope : Scope}
variable {load : String → Resolve Id ε Value} {value : Value} {seen : List String}

/-! ## Being stopped later -/

/-- The first computation was stopped, or both are the same. -/
def Stopped (first second : Resolve Id ε α) : Prop :=
  first = Except.error .tooDeep ∨ first = second

namespace Stopped

theorem refl (step : Resolve Id ε α) : Stopped step step := .inr rfl

theorem bind {first second : Resolve Id ε α} {next other : α → Resolve Id ε β}
    (stopped : Stopped first second) (after : ∀ value, Stopped (next value) (other value)) :
    Stopped (first >>= next) (second >>= other) := by
  rcases stopped with rfl | rfl
  · exact .inl rfl
  · cases first with
    | error fault => exact .inr rfl
    | ok value => exact after value

/-- Being stopped earlier goes along with the steps of a resolution. -/
def relation (ε : Type) : MonadRelation (Resolve Id ε) (Resolve Id ε) where
  relates := Stopped
  pure _ := refl _
  bind := bind

/-- Being allowed one reference more makes no difference unless the resolution is stopped. -/
theorem expand (depth : Nat) (scope : Scope) (seen : List String) (reference : String) :
    Stopped (Reference.expand load depth scope seen reference)
      (Reference.expand load (depth + 1) scope seen reference) := by
  induction depth generalizing scope seen reference with
  | zero => exact .inl rfl
  | succ depth ih =>
      rw [expand_succ, expand_succ]
      refine (refl _).bind fun target => ?_
      split
      next => exact refl _
      next =>
        refine (refl _).bind fun value => ?_
        exact (relation ε).map some ((relation ε).tree fun reference _ => ih target _ reference)

end Stopped

theorem resolve_eq_of_le {depth deeper : Nat} (le : depth ≤ deeper)
    (finished : resolve load depth scope seen value ≠ Except.error .tooDeep) :
    resolve load deeper scope seen value = resolve load depth scope seen value := by
  induction le with
  | refl => rfl
  | @step deeper _ ih =>
      have stopped : Stopped (resolve load deeper scope seen value)
          (resolve load (deeper + 1) scope seen value) :=
        (Stopped.relation ε).tree fun reference _ => .expand deeper scope seen reference
      rw [ih] at stopped
      rcases stopped with stopped | same
      · exact absurd stopped finished
      · exact same.symm

/-! ## Where a failure comes from -/

theorem bind_eq_error {step : Resolve Id ε α} {next : α → Resolve Id ε β} {fault : Fault ε} :
    (step >>= next) = Except.error fault ↔ step = Except.error fault ∨
      ∃ value, step = Except.ok value ∧ next value = Except.error fault := by
  cases step with
  | error other =>
      constructor
      · intro failed
        cases failed
        exact .inl rfl
      · intro given
        rcases given with failed | ⟨_, impossible, _⟩
        · cases failed
          rfl
        · cases impossible
  | ok value =>
      constructor
      · exact fun failed => .inr ⟨value, rfl, failed⟩
      · intro given
        rcases given with impossible | ⟨_, ⟨⟩, failed⟩
        · cases impossible
        · exact failed

theorem map_eq_error {step : Resolve Id ε α} {image : α → β} {fault : Fault ε} :
    (image <$> step) = Except.error fault ↔ step = Except.error fault := by
  rw [← bind_pure_comp, bind_eq_error]
  constructor
  · intro given
    rcases given with failed | ⟨_, _, impossible⟩
    · exact failed
    · cases impossible
  · exact .inl

section Traversal

variable {expand : String → Resolve Id ε (Option Value)} {fault : Fault ε}

theorem exists_of_resolveItems_error {items : List Value}
    (failed : resolveItems expand items = Except.error fault) :
    ∃ item ∈ items, resolveTree expand item = Except.error fault := by
  induction items with
  | nil =>
      rw [resolveItems] at failed
      cases failed
  | cons item rest ih =>
      rw [resolveItems, bind_eq_error] at failed
      rcases failed with failed | ⟨_, _, failed⟩
      · exact ⟨item, List.mem_cons_self, failed⟩
      · rw [bind_eq_error] at failed
        rcases failed with failed | ⟨_, _, impossible⟩
        · obtain ⟨other, member, failed⟩ := ih failed
          exact ⟨other, List.mem_cons_of_mem _ member, failed⟩
        · cases impossible

theorem exists_of_resolveEntries_error {entries : Entries}
    (failed : resolveEntries expand entries = Except.error fault) :
    ∃ entry ∈ entries, resolveTree expand entry.2 = Except.error fault := by
  induction entries with
  | nil =>
      rw [resolveEntries] at failed
      cases failed
  | cons entry rest ih =>
      obtain ⟨key, value⟩ := entry
      rw [resolveEntries, bind_eq_error] at failed
      rcases failed with failed | ⟨_, _, failed⟩
      · exact ⟨(key, value), List.mem_cons_self, failed⟩
      · rw [bind_eq_error] at failed
        rcases failed with failed | ⟨_, _, impossible⟩
        · obtain ⟨other, member, failed⟩ := ih failed
          exact ⟨other, List.mem_cons_of_mem _ member, failed⟩
        · cases impossible

/-- A resolution fails at one of the references in the value. -/
theorem exists_of_resolveTree_error (failed : resolveTree expand value = Except.error fault) :
    ∃ reference, Refers value reference ∧ expand reference = Except.error fault := by
  induction value using inductionOnParts with
  | scalar | tuple | set =>
      rw [resolveTree] at failed
      cases failed
  | list items ih =>
      rw [resolveTree, map_eq_error] at failed
      obtain ⟨item, member, failed⟩ := exists_of_resolveItems_error failed
      obtain ⟨reference, refers, failed⟩ := ih item member failed
      exact ⟨reference, .ofItem member refers, failed⟩
  | mapping entries ih =>
      rw [resolveTree] at failed
      split at failed
      next =>
        rw [map_eq_error] at failed
        obtain ⟨entry, member, failed⟩ := exists_of_resolveEntries_error failed
        obtain ⟨reference, refers, failed⟩ := ih entry member failed
        exact ⟨reference, .ofEntry member refers, failed⟩
      next reference found =>
        rw [bind_eq_error] at failed
        rcases failed with failed | ⟨target, _, failed⟩
        · exact ⟨reference, .here found, failed⟩
        · cases target with
          | none => cases failed
          | some target =>
              cases target with
              | scalar | list | tuple | set => cases failed
              | mapping target =>
                  dsimp only at failed
                  split at failed
                  next => cases failed
                  next =>
                    rw [resolveSiblings_eq, map_eq_error] at failed
                    obtain ⟨entry, member, failed⟩ := exists_of_resolveEntries_error failed
                    have inside := (mem_siblings.1 member).1
                    obtain ⟨other, refers, failed⟩ := ih entry inside failed
                    exact ⟨other, .ofEntry inside refers, failed⟩

end Traversal

/-- What fails at a reference: it may not be followed, its document cannot be found or loaded, its
pointer selects nothing, or resolving what it leads to fails. -/
inductive Failed (fetch : String → Except ε Value) (scope : Scope) (seen : List String)
    (reference : String) (fault : Fault ε) : Nat → Prop where
  | stopped (equal : fault = .tooDeep) : Failed fetch scope seen reference fault 0
  | address {depth : Nat} {cause : Url.Fault} (present : (split reference).1 ≠ "")
      (joined : Location.join scope.location (split reference).1 = .error cause)
      (equal : fault = .address cause) : Failed fetch scope seen reference fault (depth + 1)
  | load {depth : Nat} {location : String} {cause : ε} (present : (split reference).1 ≠ "")
      (joined : Location.join scope.location (split reference).1 = .ok location)
      (loaded : fetch location = .error cause) (equal : fault = .load cause) :
      Failed fetch scope seen reference fault (depth + 1)
  | pointer {depth : Nat} {target : Scope} {cause : Pointer.Fault}
      (entered : enter (direct fetch) scope (split reference).1 = Except.ok target)
      (selected : Pointer.resolve target.root (split reference).2 = .error cause)
      (equal : fault = .pointer reference cause) :
      Failed fetch scope seen reference fault (depth + 1)
  | inside {depth : Nat} {target : Scope} {next : Value}
      (entered : enter (direct fetch) scope (split reference).1 = Except.ok target)
      (fresh : mark target.location (split reference).2 ∉ seen)
      (selected : Pointer.resolve target.root (split reference).2 = .ok next)
      (failed : resolve (direct fetch) depth target
        (mark target.location (split reference).2 :: seen) next = Except.error fault) :
      Failed fetch scope seen reference fault (depth + 1)

@[simp] theorem lift_mapError_eq_error {γ : Type} {result : Except γ α} {cause : γ → Fault ε}
    {fault : Fault ε} :
    (lift (result.mapError cause) : Resolve Id ε α) = Except.error fault ↔
      ∃ origin, result = .error origin ∧ fault = cause origin := by
  cases result with
  | error origin =>
      constructor
      · intro failed
        cases failed
        exact ⟨origin, rfl, rfl⟩
      · intro given
        rcases given with ⟨_, ⟨⟩, rfl⟩
        rfl
  | ok value =>
      constructor
      · intro impossible
        cases impossible
      · intro given
        rcases given with ⟨_, impossible, _⟩
        cases impossible

theorem failed_of_expand_error {depth : Nat} {reference : String} {fault : Fault ε}
    (failed : Reference.expand (direct fetch) depth scope seen reference = Except.error fault) :
    Failed fetch scope seen reference fault depth := by
  cases depth with
  | zero =>
      cases failed
      exact .stopped rfl
  | succ depth =>
      rw [expand_succ, bind_eq_error] at failed
      rcases failed with failed | ⟨target, entered, failed⟩
      · unfold enter at failed
        split at failed
        next => cases failed
        next present =>
          have named : (split reference).1 ≠ "" := by simpa using present
          rw [bind_eq_error, lift_mapError_eq_error] at failed
          rcases failed with ⟨cause, joined, rfl⟩ | ⟨location, joined, failed⟩
          · exact .address named joined rfl
          · rw [bind_eq_error, direct, lift_mapError_eq_error] at failed
            rcases failed with ⟨cause, loaded, rfl⟩ | ⟨_, _, impossible⟩
            · exact .load named (lift_mapError_eq_ok.1 joined) loaded rfl
            · cases impossible
      · split at failed
        next => cases failed
        next fresh =>
          rw [bind_eq_error, lift_mapError_eq_error] at failed
          rcases failed with ⟨cause, selected, rfl⟩ | ⟨next, selected, failed⟩
          · exact .pointer entered selected rfl
          · rw [map_eq_error] at failed
            exact .inside entered (by simpa using fresh) (lift_mapError_eq_ok.1 selected) failed

/-- What the resolution of a document may fail with: it was stopped, or the fault is one of a
reference that stands in a known document. -/
inductive Cause (fetch : String → Except ε Value) (root : Scope) : Fault ε → Prop where
  | stopped : Cause fetch root .tooDeep
  | address {scope : Scope} {reference : String} {cause : Url.Fault}
      (known : Known fetch root scope) (refers : Refers scope.root reference)
      (joined : Location.join scope.location (split reference).1 = .error cause) :
      Cause fetch root (.address cause)
  | load {scope : Scope} {reference location : String} {cause : ε}
      (known : Known fetch root scope) (refers : Refers scope.root reference)
      (joined : Location.join scope.location (split reference).1 = .ok location)
      (loaded : fetch location = .error cause) : Cause fetch root (.load cause)
  | pointer {scope : Scope} {reference : String} {cause : Pointer.Fault}
      (known : Known fetch root scope) (refers : Refers scope.root reference) :
      Cause fetch root (.pointer reference cause)

theorem cause_of_resolve_error {depth : Nat} {fault : Fault ε}
    (stands : Stands fetch root scope value)
    (failed : resolve (direct fetch) depth scope seen value = Except.error fault) :
    Cause fetch root fault := by
  induction depth generalizing scope seen value with
  | zero =>
      obtain ⟨reference, refers, atReference⟩ := exists_of_resolveTree_error failed
      cases failed_of_expand_error atReference with
      | stopped equal => exact equal ▸ .stopped
  | succ depth ih =>
      obtain ⟨reference, refers, atReference⟩ := exists_of_resolveTree_error failed
      have inside := Refers.ofPart stands.part refers
      cases failed_of_expand_error atReference with
      | address _ joined equal => exact equal ▸ .address stands.known inside joined
      | load _ joined loaded equal => exact equal ▸ .load stands.known inside joined loaded
      | pointer _ _ equal => exact equal ▸ .pointer stands.known inside
      | inside entered _ selected failed => exact ih (stands.follow refers entered selected) failed

/-! ## More references than there are marks are never followed -/

/-- At the end of a branch, a resolution that may follow more references than there are marks left
is not stopped. -/
theorem resolve_ne_tooDeep {visits : List Visit} {depth : Nat}
    (finite : (Marks fetch root).Finite) (branch : Branch fetch root visits scope value)
    (enough : finite.toFinset.card < visits.length + depth) :
    resolve (direct fetch) depth scope (visits.map Visit.key) value ≠ Except.error .tooDeep := by
  induction depth generalizing visits scope value with
  | zero => exact absurd (branch.length_le finite) (Nat.not_le_of_lt enough)
  | succ depth ih =>
      intro stopped
      obtain ⟨reference, refers, failed⟩ := exists_of_resolveTree_error stopped
      cases failed_of_expand_error failed with
      | address _ _ equal | load _ _ _ equal | pointer _ _ equal => cases equal
      | inside entered fresh selected failed =>
          refine ih (branch.follow refers entered fresh selected) ?_ failed
          rw [List.length_cons]
          omega

/-- Where there are finitely many marks, the resolution of a document ends: it may follow more
references into each other than there are marks, and then it is not stopped and gives the same
however many it may follow. -/
theorem dereference_of_lt {document : Value} {location : Option String}
    (finite : (Marks fetch ⟨document, location⟩).Finite) :
    ∃ outcome, outcome ≠ .error .tooDeep ∧
      (∀ fault, outcome = .error fault → Cause fetch ⟨document, location⟩ fault) ∧
      ∀ depth, finite.toFinset.card < depth →
        (dereference fetch depth document location).result = outcome := by
  have finished : resolve (direct fetch) (finite.toFinset.card + 1) ⟨document, location⟩ []
      document ≠ Except.error .tooDeep := resolve_ne_tooDeep finite .start (by simp)
  refine ⟨_, finished, ?_, ?_⟩
  · exact fun fault failed => cause_of_resolve_error .start failed
  intro depth enough
  rw [dereference_result]
  exact resolve_eq_of_le enough finished

/-- Where there are finitely many marks, the resolution of a document ends: from some number of
references on that it may follow into each other, it gives the same and is not stopped. What it
fails with is the fault of some reference. -/
theorem dereference_ends {document : Value} {location : Option String}
    (finite : (Marks fetch ⟨document, location⟩).Finite) :
    ∃ outcome bound, outcome ≠ .error .tooDeep ∧
      (∀ fault, outcome = .error fault → Cause fetch ⟨document, location⟩ fault) ∧
      ∀ depth, bound ≤ depth → (dereference fetch depth document location).result = outcome := by
  obtain ⟨outcome, finished, causes, stable⟩ := dereference_of_lt finite
  exact ⟨outcome, finite.toFinset.card + 1, finished, causes, stable⟩

end RouteTypes.Reference
