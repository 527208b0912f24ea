import RouteTypes.Proofs.Reference.Simulation

/-!
# The cache of loaded documents

A resolution with a cache gives the same result as one that loads a document every time it is
referred to (`dereference_result`). The two run side by side: at every step the cache holds only
documents that loading would give, which is what `Simulates` carries through a computation.
-/

namespace RouteTypes.Reference

open Value

variable {ε : Type} {fetch : String → Except ε Value}

/-- A cache holds what loading gives. -/
def Cache.Faithful (fetch : String → Except ε Value) (cache : Cache) : Prop :=
  ∀ location document, cache.documents.lookup location = some document →
    fetch location = .ok document

/-- A document that loading has given may be kept. -/
theorem Cache.Faithful.keep {cache : Cache} {loads : List String} {location : String}
    {document : Value} (faithful : cache.Faithful fetch) (fetched : fetch location = .ok document) :
    Cache.Faithful fetch ⟨(location, document) :: cache.documents, loads⟩ := by
  intro other found lookup
  rw [List.lookup_cons] at lookup
  split at lookup
  next equal =>
    rw [eq_of_beq equal, fetched]
    exact congrArg _ (Option.some.inj lookup)
  next => exact faithful other found lookup

/-- Loading a document that was loaded before gives what loading it again would give. -/
theorem simulates_withCache (location : String) :
    Simulates (Cache.Faithful fetch) (withCache fetch location) (direct fetch location) := by
  intro cache faithful
  cases known : cache.documents.lookup location with
  | some document =>
      rw [withCache, run_bind_ok (run_get cache), known, direct,
        faithful location document known]
      exact ⟨rfl, faithful⟩
  | none =>
      rw [withCache, run_bind_ok (run_get cache), known, direct]
      cases fetched : fetch location with
      | error fault => exact ⟨rfl, faithful⟩
      | ok document => exact ⟨rfl, faithful.keep fetched⟩

/-- The cache does not show in the result. -/
theorem dereference_result (fetch : String → Except ε Value) (depth : Nat) (document : Value)
    (location : Option String) :
    (dereference fetch depth document location).result =
      resolve (direct fetch) depth ⟨document, location⟩ [] document := by
  have empty : Cache.Faithful fetch ⟨[], []⟩ := by
    intro location document found
    simp at found
  have simulated : Simulates (Cache.Faithful fetch)
      (resolve (withCache fetch) depth ⟨document, location⟩ [] document)
      (resolve (direct fetch) depth ⟨document, location⟩ [] document) :=
    MonadRelation.resolve Simulates.throws simulates_withCache depth _ [] document
  exact (simulated _ empty).1

end RouteTypes.Reference
