import RouteTypes.Proofs.Reference.Cache
import Mathlib.Data.List.Induction

/-!
# What is loaded

A resolution with a cache and one that loads a document at every reference to it give the same
result, and the former loads what the latter loads, in the same order, but each location only the
first time (`dereference_eq_afresh`). Both run side by side: before every step the cache holds
exactly the documents of the locations that have been loaded (`Tied`). A location that cannot be
loaded is in none of them, but then there is no further step.
-/

namespace RouteTypes.Reference

variable {ε α β : Type} {fetch : String → Except ε Value}

/-! ## Lists without repetitions -/

section Repetitions

variable {locations : List String} {location : String}

theorem eraseDups_concat_of_mem (member : location ∈ locations) :
    (locations ++ [location]).eraseDups = locations.eraseDups := by
  rw [List.eraseDups_append]
  simp [List.removeAll, member]

theorem eraseDups_concat_of_not_mem (fresh : location ∉ locations) :
    (locations ++ [location]).eraseDups = locations.eraseDups ++ [location] := by
  rw [List.eraseDups_append]
  simp [List.removeAll, fresh, List.eraseDups_cons]

/-- Without its repetitions a list holds everything in the order of the first appearance. -/
theorem pairwise_eraseDups (locations : List String) :
    locations.eraseDups.Pairwise fun first second =>
      locations.idxOf first < locations.idxOf second := by
  induction locations using List.reverseRecOn with
  | nil => exact List.Pairwise.nil
  | append_singleton locations location ih =>
      have earlier : locations.eraseDups.Pairwise fun first second =>
          (locations ++ [location]).idxOf first < (locations ++ [location]).idxOf second := by
        refine ih.imp_of_mem fun inFirst inSecond before => ?_
        rw [List.mem_eraseDups] at inFirst inSecond
        rwa [List.idxOf_append_of_mem inFirst, List.idxOf_append_of_mem inSecond]
      by_cases member : location ∈ locations
      · rwa [eraseDups_concat_of_mem member]
      · rw [eraseDups_concat_of_not_mem member, List.pairwise_append]
        refine ⟨earlier, List.pairwise_singleton _ _, ?_⟩
        intro first inFirst last isLast
        rw [List.mem_eraseDups] at inFirst
        rw [List.mem_singleton] at isLast
        subst isLast
        rw [List.idxOf_append_of_mem inFirst, List.idxOf_append, if_neg member]
        exact Nat.lt_add_left _ (List.idxOf_lt_length_iff.2 inFirst)

end Repetitions

/-! ## A cache and a list of all that is loaded -/

/-- A cache holds the documents of the locations of a list, each as loading gives it, and its own
list has each location once. -/
structure Tied (fetch : String → Except ε Value) (cache : Cache) (loads : List String) : Prop where
  faithful : cache.Faithful fetch
  known : ∀ location, location ∈ loads ↔ (cache.documents.lookup location).isSome
  order : cache.loads = loads.eraseDups

/-- How two computations end side by side: with the same result, and tied to each other, or with
the same failure after the same loads. -/
inductive Ends (fetch : String → Except ε Value) :
    Except (Fault ε) α × Cache → Except (Fault ε) α × List String → Prop where
  | ok {cache : Cache} {loads : List String} (value : α) (tied : Tied fetch cache loads) :
      Ends fetch (.ok value, cache) (.ok value, loads)
  | error {cache : Cache} {loads : List String} (fault : Fault ε)
      (order : cache.loads = loads.eraseDups) :
      Ends fetch (.error fault, cache) (.error fault, loads)

/-- From a cache and a list that are tied to each other two computations end side by side. -/
def Accompanies (fetch : String → Except ε Value) (cached : Resolve (StateM Cache) ε α)
    (afresh : Resolve (StateM (List String)) ε α) : Prop :=
  ∀ cache loads, Tied fetch cache loads → Ends fetch (cached.run.run cache) (afresh.run.run loads)

namespace Accompanies

theorem pure (value : α) :
    Accompanies fetch (Pure.pure value) (Pure.pure value) :=
  fun _ _ tied => .ok value tied

theorem bind {cached : Resolve (StateM Cache) ε α} {afresh : Resolve (StateM (List String)) ε α}
    {next : α → Resolve (StateM Cache) ε β} {other : α → Resolve (StateM (List String)) ε β}
    (steps : Accompanies fetch cached afresh)
    (after : ∀ value, Accompanies fetch (next value) (other value)) :
    Accompanies fetch (cached >>= next) (afresh >>= other) := by
  intro cache loads tied
  have ends := steps cache loads tied
  cases ran : cached.run.run cache with
  | mk result between =>
      cases otherRan : afresh.run.run loads with
      | mk otherResult otherBetween =>
          rw [ran, otherRan] at ends
          cases ends with
          | ok value tied =>
              rw [run_bind_ok ran, run_bind_ok otherRan]
              exact after value between otherBetween tied
          | error fault order =>
              rw [run_bind_error ran, run_bind_error otherRan]
              exact .error fault order

/-- Computations that end side by side go along with the steps of a resolution. -/
def relation (fetch : String → Except ε Value) :
    MonadRelation (Resolve (StateM Cache) ε) (Resolve (StateM (List String)) ε) where
  relates := Accompanies fetch
  pure := pure
  bind := bind

theorem throws : (relation fetch).Throws :=
  fun fault _ _ tied => .error fault tied.order

end Accompanies

/-- A location that was loaded before is listed again, but the cache stays. -/
theorem Tied.again {cache : Cache} {loads : List String} {location : String}
    (tied : Tied fetch cache loads) (member : location ∈ loads) :
    Tied fetch cache (loads ++ [location]) where
  faithful := tied.faithful
  known other := by
    rw [List.mem_append, List.mem_singleton, ← tied.known other]
    exact ⟨fun given => given.elim id fun equal => equal ▸ member, .inl⟩
  order := by rw [eraseDups_concat_of_mem member, tied.order]

/-- A document that is loaded for the first time comes into the cache. -/
theorem Tied.first {cache : Cache} {loads : List String} {location : String} {document : Value}
    (tied : Tied fetch cache loads) (fresh : location ∉ loads)
    (fetched : fetch location = .ok document) :
    Tied fetch ⟨(location, document) :: cache.documents, cache.loads ++ [location]⟩
      (loads ++ [location]) where
  faithful := tied.faithful.keep fetched
  known other := by
    rw [List.mem_append, List.mem_singleton, List.lookup_cons]
    split
    next equal => simp [eq_of_beq equal]
    next different =>
      have unequal : other ≠ location := by simpa using different
      rw [tied.known other]
      simp [unequal]
  order := by rw [eraseDups_concat_of_not_mem fresh, tied.order]

/-- Loading with a cache and loading every time end side by side. -/
theorem accompanies_withCache (location : String) :
    Accompanies fetch (withCache fetch location) (withoutCache fetch location) := by
  intro cache loads tied
  cases known : cache.documents.lookup location with
  | some document =>
      have member : location ∈ loads := (tied.known location).2 (by simp [known])
      rw [withCache, run_bind_ok (run_get cache), known]
      rw [withoutCache, tied.faithful location document known]
      exact .ok document (tied.again member)
  | none =>
      have fresh : location ∉ loads := by
        intro member
        simpa [known] using (tied.known location).1 member
      rw [withCache, run_bind_ok (run_get cache), known, withoutCache]
      cases fetched : fetch location with
      | error fault =>
          refine .error (.load fault) ?_
          rw [eraseDups_concat_of_not_mem fresh, ← tied.order]
      | ok document => exact .ok document (tied.first fresh fetched)

/-! ## The whole resolution -/

/-- Resolves all references of a document, like `dereference` does, but loads a document at every
reference to it. -/
def dereferenceAfresh (fetch : String → Except ε Value) (depth : Nat) (document : Value)
    (location : Option String) : Outcome ε :=
  let (result, loads) :=
    (resolve (withoutCache fetch) depth ⟨document, location⟩ [] document).run.run []
  ⟨result, loads⟩

/-- The cache does not show: the result or the fault is the one of loading a document at every
reference to it, and the locations are loaded in the same order, each of them once, the first
time that it is referred to. -/
theorem dereference_eq_afresh (fetch : String → Except ε Value) (depth : Nat) (document : Value)
    (location : Option String) :
    (dereference fetch depth document location).result =
        (dereferenceAfresh fetch depth document location).result ∧
      (dereference fetch depth document location).loads =
        (dereferenceAfresh fetch depth document location).loads.eraseDups ∧
      (dereference fetch depth document location).loads.Nodup ∧
      (dereference fetch depth document location).loads.Pairwise fun first second =>
        (dereferenceAfresh fetch depth document location).loads.idxOf first <
          (dereferenceAfresh fetch depth document location).loads.idxOf second := by
  have start : Tied fetch ⟨[], []⟩ [] := by
    refine ⟨?_, by simp, rfl⟩
    intro location document found
    cases found
  have ends : Ends fetch
      ((resolve (withCache fetch) depth ⟨document, location⟩ [] document).run.run ⟨[], []⟩)
      ((resolve (withoutCache fetch) depth ⟨document, location⟩ [] document).run.run []) :=
    MonadRelation.resolve Accompanies.throws accompanies_withCache depth _ [] document _ _ start
  have same : (dereference fetch depth document location).result =
        (dereferenceAfresh fetch depth document location).result ∧
      (dereference fetch depth document location).loads =
        (dereferenceAfresh fetch depth document location).loads.eraseDups := by
    unfold dereference dereferenceAfresh
    generalize (resolve (withCache fetch) depth ⟨document, location⟩ [] document).run.run ⟨[], []⟩
      = cached at ends
    generalize (resolve (withoutCache fetch) depth ⟨document, location⟩ [] document).run.run []
      = afresh at ends
    cases ends with
    | ok value tied => exact ⟨rfl, tied.order⟩
    | error fault order => exact ⟨rfl, order⟩
  have order := pairwise_eraseDups (dereferenceAfresh fetch depth document location).loads
  rw [← same.2] at order
  refine ⟨same.1, same.2, order.imp fun before => ?_, order⟩
  intro equal
  subst equal
  exact Nat.lt_irrefl _ before

/-- A document with two references to another one. -/
def doubled : Value :=
  .list [.mapping [(.text "$ref", .text "pet.json")], .mapping [(.text "$ref", .text "pet.json")]]

example :
    (dereference (fun _ => (.ok .null : Except Unit Value)) 1 doubled none).loads =
        ["pet.json"] ∧
      (dereferenceAfresh (fun _ => (.ok .null : Except Unit Value)) 1 doubled none).loads =
        ["pet.json", "pet.json"] :=
  ⟨rfl, rfl⟩

end RouteTypes.Reference
