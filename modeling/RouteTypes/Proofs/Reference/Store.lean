import RouteTypes.Proofs.Reference.Ending

/-!
# Resolutions over a store of documents

Where finitely many documents can be loaded, each at one exact location, a resolution ends
whatever refers to what. To speak of the branches that a resolution really takes, it is made to
keep an account of them (`record`): for each reference that it follows, those that it is following
at that time. Keeping the account changes nothing else (`simulates_expandRecording`), no branch
comes to a mark twice, and so no branch is longer than there are marks in the store
(`dereference_over_store`).
-/

namespace RouteTypes.Reference

variable {ε : Type} {fetch : String → Except ε Value} {root scope : Scope} {value : Value}
variable {visits : List Visit} {reference : String}

/-! ## Keeping an account -/

/-- The branches that a resolution has taken, each as it was when its last reference was
followed. -/
abbrev Account := List (List Visit)

/-- The resolved value of a reference, like `expand` gives it, with an account of the branches that
are taken from the one that has come to the reference. -/
def expandRecording (fetch : String → Except ε Value) :
    Nat → List Visit → Scope → List String → String → Resolve (StateM Account) ε (Option Value)
  | 0, _, _, _, _ => throw .tooDeep
  | depth + 1, visits, scope, seen, reference => do
    let (location, pointer) := split reference
    let target ← enter (fun location => lift ((fetch location).mapError .load)) scope location
    let key := mark target.location pointer
    if seen.contains key then return none
    let value ← lift ((Pointer.resolve target.root pointer).mapError (.pointer reference))
    let visits := ⟨target, reference⟩ :: visits
    modify (visits :: ·)
    some <$> resolveTree (expandRecording fetch depth visits target (key :: seen)) value

theorem expandRecording_succ (depth : Nat) (seen : List String) :
    expandRecording fetch (depth + 1) visits scope seen reference = (do
      let target ← enter (fun location => lift ((fetch location).mapError .load)) scope
        (split reference).1
      if seen.contains (mark target.location (split reference).2) then return none
      let value ← lift
        ((Pointer.resolve target.root (split reference).2).mapError (.pointer reference))
      modify ((⟨target, reference⟩ :: visits) :: ·)
      some <$> resolveTree (expandRecording fetch depth (⟨target, reference⟩ :: visits) target
        (mark target.location (split reference).2 :: seen)) value) :=
  rfl

/-- The result of resolving a document, with an account of the branches that are taken. -/
def record (fetch : String → Except ε Value) (depth : Nat) (document : Value)
    (location : Option String) : Except (Fault ε) Value × Account :=
  (resolveTree (expandRecording fetch depth [] ⟨document, location⟩ []) document).run.run []

/-- All branches of an account start with the given document. -/
def Account.Sound (fetch : String → Except ε Value) (root : Scope) (account : Account) : Prop :=
  ∀ visits ∈ account, ∃ scope value, Branch fetch root visits scope value

theorem simulates_expandRecording {depth : Nat} (branch : Branch fetch root visits scope value)
    (refers : Refers value reference) :
    Simulates (Account.Sound fetch root)
      (expandRecording fetch depth visits scope (visits.map Visit.key) reference)
      (expand (direct fetch) depth scope (visits.map Visit.key) reference) := by
  induction depth generalizing visits scope value reference with
  | zero => exact .throw _
  | succ depth ih =>
      rw [expand_succ, expandRecording_succ]
      refine (Simulates.enter (fun location => .lift _) scope _).bindOf fun target entered => ?_
      split
      next => exact .pure none
      next fresh =>
        refine (Simulates.lift _).bindOf fun next selected => ?_
        have further := branch.follow refers entered (by simpa using fresh)
          (lift_mapError_eq_ok.1 selected)
        refine .afterModify ?_ ?_
        · intro account sound visits member
          rcases List.mem_cons.1 member with rfl | member
          · exact ⟨target, next, further⟩
          · exact sound visits member
        · exact (Simulates.relation _ ε).map some
            ((Simulates.relation _ ε).tree fun reference refers => ih further refers)

/-- Keeping an account does not show in the result, and the account is sound. -/
theorem record_spec (fetch : String → Except ε Value) (depth : Nat) (document : Value)
    (location : Option String) :
    (record fetch depth document location).1 =
        (dereference fetch depth document location).result ∧
      Account.Sound fetch ⟨document, location⟩ (record fetch depth document location).2 := by
  have simulated : Simulates (Account.Sound fetch ⟨document, location⟩)
      (resolveTree (expandRecording fetch depth [] ⟨document, location⟩ []) document)
      (resolve (direct fetch) depth ⟨document, location⟩ [] document) :=
    (Simulates.relation _ ε).tree fun reference refers =>
      simulates_expandRecording Branch.start refers
  rw [dereference_result]
  exact simulated [] (by simp [Account.Sound])

/-! ## Stores -/

/-- Documents by their exact locations. -/
abbrev Store := List (String × Value)

namespace Store

/-- Loads a document of a store. Nothing else can be loaded. -/
def load (store : Store) (missing : String → ε) (location : String) : Except ε Value :=
  match store.lookup location with
  | some document => .ok document
  | none => .error (missing location)

/-- The marks of a store and the document that a resolution starts with: those of a location of
the store, or the one of this document, and a pointer that stands in one of the documents. -/
def marks (store : Store) (root : Scope) : Finset String :=
  List.toFinset ((root.location :: store.map fun entry => some entry.1).flatMap fun location =>
    ((root.root :: store.map Prod.snd).flatMap references).map fun reference =>
      mark location (split reference).2)

variable {store : Store} {missing : String → ε}

theorem mem_of_load {location : String} {document : Value}
    (loaded : store.load missing location = .ok document) : (location, document) ∈ store := by
  unfold load at loaded
  split at loaded
  next document found =>
    cases loaded
    obtain ⟨before, after, equal, _⟩ := List.lookup_eq_some_iff.1 found
    rw [equal]
    exact List.mem_append_right _ List.mem_cons_self
  next => cases loaded

/-- A document that a resolution comes to is the one that it starts with or one of the store. -/
theorem known_load (known : Known (store.load missing) root scope) :
    scope = root ∨ ∃ entry ∈ store, scope = ⟨entry.2, some entry.1⟩ := by
  induction known with
  | start => exact .inl rfl
  | follow known refers entered ih =>
      rcases enter_eq_ok.1 entered with ⟨_, rfl⟩ | ⟨_, joined, document, _, loaded, rfl⟩
      · exact ih
      · exact .inr ⟨(joined, document), mem_of_load loaded, rfl⟩

/-- The marks of known documents are marks of the store. -/
theorem mem_marks {key : String} (known : key ∈ Marks (store.load missing) root) :
    key ∈ store.marks root := by
  obtain ⟨scope, reference, known, refers, target, entered, rfl⟩ := known
  have place : target.location ∈ root.location :: store.map fun entry => some entry.1 := by
    rcases known_load (.follow known refers entered) with rfl | ⟨entry, member, rfl⟩
    · exact List.mem_cons_self
    · exact List.mem_cons_of_mem _ (List.mem_map_of_mem member)
  have text : scope.root ∈ root.root :: store.map Prod.snd := by
    rcases known_load known with rfl | ⟨entry, member, rfl⟩
    · exact List.mem_cons_self
    · exact List.mem_cons_of_mem _ (List.mem_map_of_mem member)
  rw [marks, List.mem_toFinset, List.mem_flatMap]
  refine ⟨target.location, place, List.mem_map.2 ⟨reference, ?_, rfl⟩⟩
  exact List.mem_flatMap.2 ⟨scope.root, text, mem_references.2 refers⟩

theorem finite_marks (store : Store) (missing : String → ε) (root : Scope) :
    (Marks (store.load missing) root).Finite :=
  (store.marks root).finite_toSet.subset fun _ known => mem_marks known

theorem card_marks_le :
    (finite_marks store missing root).toFinset.card ≤ (store.marks root).card := by
  refine Finset.card_le_card fun key known => ?_
  rw [Set.Finite.mem_toFinset] at known
  exact mem_marks known

end Store

/-- The resolution of a document ends over every finite store of documents. No branch that it takes
comes to a mark twice, all marks that it comes to are those of the store, and so a branch follows
at most as many references into each other as there are such marks. If more may be followed, the
resolution is not stopped and always gives the same, a document or a fault. -/
theorem dereference_over_store (store : Store) (missing : String → ε) (document : Value)
    (location : Option String) :
    (∀ depth, (record (store.load missing) depth document location).1 =
        (dereference (store.load missing) depth document location).result ∧
      ∀ visits ∈ (record (store.load missing) depth document location).2,
        (visits.map Visit.key).Nodup ∧
          (∀ key ∈ visits.map Visit.key, key ∈ store.marks ⟨document, location⟩) ∧
          visits.length ≤ (store.marks ⟨document, location⟩).card) ∧
    ∃ outcome, outcome ≠ .error .tooDeep ∧
      ∀ depth, (store.marks ⟨document, location⟩).card < depth →
        (dereference (store.load missing) depth document location).result = outcome := by
  have finite := Store.finite_marks store missing ⟨document, location⟩
  have card : finite.toFinset.card ≤ (store.marks ⟨document, location⟩).card :=
    Store.card_marks_le
  constructor
  · intro depth
    obtain ⟨same, sound⟩ := record_spec (store.load missing) depth document location
    refine ⟨same, fun visits member => ?_⟩
    obtain ⟨scope, value, branch⟩ := sound visits member
    refine ⟨branch.distinct, fun key visited => Store.mem_marks (branch.marks key visited), ?_⟩
    exact Nat.le_trans (branch.length_le finite) card
  · obtain ⟨outcome, finished, _, stable⟩ := dereference_of_lt finite
    exact ⟨outcome, finished, fun depth enough => stable depth (Nat.lt_of_le_of_lt card enough)⟩

end RouteTypes.Reference
