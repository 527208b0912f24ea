import RouteTypes.Proofs.Schema.Narrowing
import RouteTypes.Proofs.Session

/-!
# Narrowing several times

A generator may be narrowed by one filter after the other. What is left are the routes that all of
the filters admit, in document order and with their path items, and nothing else of the contract
changes (`narrow_several`). So neither the order of the filters matters nor how often each of them
is applied.
-/

namespace RouteTypes

/-! ## Admitted routes -/

/-- A filter admits a route with its path item. Where there is no filter or no rule, it admits every
route. -/
def RouteFilter.admits : Option RouteFilter → String → Option Contract.PathItem → Bool
  | none, _, _ => true
  | some (RouteFilter.rules given), route, _ => given.isEmpty || given.any (·.holds route)
  | some (RouteFilter.predicate test), route, item => test route item

/-- The contract with the routes that all of several filters admit. -/
def Contract.Document.admitted (contract : Contract.Document)
    (filters : List (Option RouteFilter)) : Contract.Document :=
  { contract with
    paths := contract.paths.filter fun path =>
      filters.all fun filter => RouteFilter.admits filter path.1 path.2 }

namespace Contract

variable {contract : Document}

@[simp] theorem admitted_nil : contract.admitted [] = contract := by
  simp [Document.admitted]

@[simp] theorem admitted_admitted (first second : List (Option RouteFilter)) :
    (contract.admitted first).admitted second = contract.admitted (first ++ second) := by
  simp [Document.admitted, List.filter_filter, Bool.and_comm]

/-- Filters with the same members admit the same routes. -/
theorem admitted_congr {first second : List (Option RouteFilter)}
    (same : ∀ filter, filter ∈ first ↔ filter ∈ second) :
    contract.admitted first = contract.admitted second := by
  have agree (path : String × Option PathItem) :
      (first.all fun filter => RouteFilter.admits filter path.1 path.2) =
        second.all fun filter => RouteFilter.admits filter path.1 path.2 := by
    rw [Bool.eq_iff_iff, List.all_eq_true, List.all_eq_true]
    simp only [same]
  simp only [Document.admitted, agree]

theorem narrow_of_void {filter : Option RouteFilter} (void : RouteFilter.isVoid filter) :
    contract.narrow filter = contract := by
  cases filter with
  | none => rfl
  | some filter => exact if_pos void

/-- Both tests for an empty filter, that of a generator and that of a contract, are harmless: a
filter keeps the routes that it admits. -/
theorem narrow_eq_admitted (contract : Document) (filter : Option RouteFilter) :
    contract.narrow filter = contract.admitted [filter] := by
  cases filter with
  | none => simp [Document.narrow, Document.admitted, RouteFilter.admits]
  | some filter =>
      cases filter with
      | rules given =>
          cases given <;>
            simp [Document.narrow, Document.admitted, RouteFilter.admits, RouteFilter.isEmpty,
              RouteFilter.keeps]
      | predicate test =>
          simp [Document.narrow, Document.admitted, RouteFilter.admits, RouteFilter.isEmpty,
            RouteFilter.keeps]

end Contract

namespace Generator

/-! ## One filter and several -/

/-- Narrowing once: only where there is nothing to select by, the declarations are kept. -/
theorem narrow_eq (generator : Generator) (filter : Option RouteFilter) :
    generator.narrow filter =
      ⟨generator.contract.admitted [filter],
        if RouteFilter.isVoid filter then generator.compiled else none⟩ := by
  rw [← Contract.narrow_eq_admitted]
  by_cases void : RouteFilter.isVoid filter
  · rw [narrow_of_void void, if_pos void, Contract.narrow_of_void void]
  · rw [narrow_of_not_void void, if_neg void]

theorem foldl_narrow (generator : Generator) (filters : List (Option RouteFilter)) :
    filters.foldl narrow generator =
      ⟨generator.contract.admitted filters,
        if filters.all RouteFilter.isVoid then generator.compiled else none⟩ := by
  induction filters generalizing generator with
  | nil => rw [Contract.admitted_nil]; rfl
  | cons filter filters ih =>
      rw [List.foldl_cons, ih, narrow_eq, Contract.admitted_admitted, List.singleton_append,
        List.all_cons]
      congr 1
      cases filters.all RouteFilter.isVoid <;> cases RouteFilter.isVoid filter <;> rfl

/-- Narrowing by one filter after the other leaves the routes that all of them admit, in their order
and with their path items, and the rest of the contract. A generator that has been compiled stays so
where none of the filters selects anything. Filters in any other order and number, with the same
members, give the same generator. -/
theorem narrow_several (generator : Generator) (filters : List (Option RouteFilter)) :
    filters.foldl narrow generator =
        ⟨generator.contract.admitted filters,
          if filters.all RouteFilter.isVoid then generator.compiled else none⟩ ∧
      ∀ others : List (Option RouteFilter), (∀ filter, filter ∈ others ↔ filter ∈ filters) →
        others.foldl narrow generator = filters.foldl narrow generator := by
  refine ⟨foldl_narrow generator filters, ?_⟩
  intro others same
  have void : others.all RouteFilter.isVoid = filters.all RouteFilter.isVoid := by
    rw [Bool.eq_iff_iff, List.all_eq_true, List.all_eq_true]
    simp only [same]
  rw [foldl_narrow, foldl_narrow, Contract.admitted_congr same, void]

/-- Rules for two routes and a predicate on the path item leave one of the routes, also in the other
order, applied twice and with filters between them that select nothing. -/
theorem narrow_several_toys :
    let rules : Option RouteFilter := some (.rules [.literal "/pets", .literal "/toys"])
    let posts : Option RouteFilter :=
      some (.predicate fun _ item => item.any fun item => item.operations.any (·.1 == .post))
    let toys : Generator :=
      ⟨{ Schema.twoRoutes with
        paths := [("/toys", some ⟨[(.post, some (answering [("type", .text "integer")]))], []⟩)] },
        none⟩
    [rules, posts].foldl narrow ⟨Schema.twoRoutes, none⟩ = toys ∧
      [posts, none, rules, some (.rules []), posts].foldl narrow ⟨Schema.twoRoutes, none⟩ =
        [none, some (.rules []), rules, posts].foldl narrow ⟨Schema.twoRoutes, none⟩ := by
  intro rules posts toys
  constructor
  · exact (narrow_several ⟨Schema.twoRoutes, none⟩ [rules, posts]).1.trans (by rfl)
  · refine (narrow_several _ _).2 _ fun filter => ?_
    simp only [List.mem_cons, List.not_mem_nil, or_false]
    grind

end Generator

end RouteTypes
