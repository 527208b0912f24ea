import RouteTypes.Proofs.Contract.Provenance
import RouteTypes.RouteFilter

/-!
# Names that stand once

In the mappings of a contract no name stands twice. Every contract that comes from a checked
document is of this kind (`distinct_of_checkDocument`), and so is every part of it that a filter
selects (`Document.Distinct.narrow`).
-/

namespace RouteTypes.Contract

open Check Value

/-- Routes, the methods of a route, the status codes of an operation and the names in the schemas
that are copied stand once each. -/
structure Document.Distinct (contract : Document) : Prop where
  routes : (contract.paths.map Prod.fst).Nodup
  methods : ∀ route item, (route, some item) ∈ contract.paths →
    (item.operations.map Prod.fst).Nodup
  statuses : ∀ route item method operation responses, (route, some item) ∈ contract.paths →
    (method, some operation) ∈ item.operations → operation.responses = some responses →
    (responses.map Prod.fst).Nodup
  names : ∀ fields, contract.Copies fields → (fields.map Prod.fst).Nodup

variable {value : Value} {contract : Document}

/-- The status codes of a checked operation stand once. -/
theorem nodup_responses {operation : Operation} (success : checkOperation value = .ok operation)
    {responses : List (String × Option Body)} (given : operation.responses = some responses) :
    (responses.map Prod.fst).Nodup := by
  simp only [checkOperation, Checked.bind_eq_ok] at success
  obtain ⟨entries, accepted, ⟨description, parameters, request, others, extras⟩, both,
    success⟩ := success
  cases success
  simp only [Checked.both_eq_ok] at both
  dsimp only at given
  subst given
  rcases fieldOr_eq_ok both.2.2.2.1 with impossible | ⟨_, _, part, _, checked⟩
  · cases impossible
  · obtain ⟨_, _, distinct, _⟩ := mapping_eq_ok (optional_eq_ok (checkResponses_eq_ok checked))
    exact distinct

theorem distinct_of_checkDocument (success : checkDocument value = .ok contract) :
    contract.Distinct where
  routes := (pathItems_of_document success).1
  methods route item stands := by
    obtain ⟨_, _, checked⟩ := (pathItems_of_document success).2 route item stands
    exact (operations_of_pathItem checked).1
  statuses route item method operation responses stands member given := by
    obtain ⟨_, _, itemChecked⟩ := (pathItems_of_document success).2 route item stands
    obtain ⟨_, _, checked⟩ := (operations_of_pathItem itemChecked).2 method operation member
    exact nodup_responses checked given
  names fields copies := by
    obtain ⟨_, _, accepted⟩ := taken_of_copies success copies
    obtain ⟨_, _, distinct, _⟩ := mapping_eq_ok accepted
    exact distinct

@[simp] theorem Method.get?_names (method : Method) :
    Fields.get? Method.names method.name = some method := by
  cases method <;> rfl

theorem Method.name_injective : Method.name.Injective := by
  intro left right same
  rw [← Option.some_inj, ← Method.get?_names left, same, Method.get?_names right]

/-- The routes of a part of a contract are routes of the contract. -/
theorem sublist_narrow (contract : Document) (filter : Option RouteFilter) :
    (contract.narrow filter).paths.Sublist contract.paths := by
  unfold Document.narrow
  split
  next => exact List.Sublist.refl _
  next =>
    split
    next => exact List.Sublist.refl _
    next => exact List.filter_sublist

theorem Document.Distinct.narrow (distinct : contract.Distinct) (filter : Option RouteFilter) :
    (contract.narrow filter).Distinct := by
  have kept := sublist_narrow contract filter
  refine ⟨?_, ?_, ?_, ?_⟩
  · exact distinct.routes.sublist (kept.map Prod.fst)
  · exact fun route item stands => distinct.methods route item (kept.subset stands)
  · intro route item method operation responses stands
    exact distinct.statuses route item method operation responses (kept.subset stands)
  · intro fields copies
    obtain ⟨route, item, method, operation, stands, member, copies⟩ := copies
    exact distinct.names fields
      ⟨route, item, method, operation, kept.subset stands, member, copies⟩

end RouteTypes.Contract
