import RouteTypes.Check.Collection
import RouteTypes.Proofs.Value.Fields
import RouteTypes.Proofs.Value.Part
import Mathlib.Data.List.Forall2

/-!
# Checks that succeed

What is known of a value once a check has accepted it, one lemma for each way of building checks.
-/

namespace RouteTypes

/-- Two steps succeed where the first one does, and the second one with its result. -/
theorem except_bind_eq_ok {ε α β : Type} {step : Except ε α} {next : α → Except ε β}
    {result : β} :
    (step >>= next) = .ok result ↔ ∃ value, step = .ok value ∧ next value = .ok result := by
  cases step with
  | error fault =>
      constructor
      · intro impossible
        cases impossible
      · intro given
        rcases given with ⟨_, impossible, _⟩
        cases impossible
  | ok value =>
      constructor
      · exact fun success => ⟨value, rfl, success⟩
      · intro given
        rcases given with ⟨_, ⟨⟩, success⟩
        exact success

/-- Steps that go on alike from what the first part gives. -/
theorem except_bind_congr {ε α β : Type} {step : Except ε α} {next other : α → Except ε β}
    (same : ∀ value, step = .ok value → next value = other value) :
    (step >>= next) = (step >>= other) := by
  cases step with
  | error fault => rfl
  | ok value => exact same value rfl

theorem except_bind_eq_error {ε α β : Type} {step : Except ε α} {next : α → Except ε β}
    {fault : ε} : (step >>= next) = .error fault ↔
      step = .error fault ∨ ∃ value, step = .ok value ∧ next value = .error fault := by
  cases step with
  | error other =>
      refine (iff_of_eq rfl : _ ↔ (Except.error other : Except ε β) = .error fault).trans ?_
      simp
  | ok value =>
      refine (iff_of_eq rfl : _ ↔ next value = .error fault).trans ?_
      simp

/-- A step for each item succeeds where each of them does. -/
theorem except_mapM_eq_ok {ε α β : Type} {each : α → Except ε β} {items : List α}
    {results : List β} :
    items.mapM each = .ok results ↔
      List.Forall₂ (fun item result => each item = .ok result) items results := by
  induction items generalizing results with
  | nil =>
      rw [List.mapM_nil, List.forall₂_nil_left_iff]
      exact ⟨fun same => (Except.ok.inj same).symm, fun same => same ▸ rfl⟩
  | cons item rest ih =>
      simp only [List.mapM_cons, except_bind_eq_ok, ih, List.forall₂_cons_left_iff]
      constructor
      · rintro ⟨value, first, values, others, same⟩
        cases same
        exact ⟨value, values, first, others, rfl⟩
      · rintro ⟨value, values, first, others, rfl⟩
        exact ⟨value, first, values, others, rfl⟩

/-- A step for each item fails with the first one of them that fails. -/
theorem except_mapM_eq_error {ε α β : Type} {each : α → Except ε β} {items : List α} {fault : ε} :
    items.mapM each = .error fault ↔ ∃ before item after, items = before ++ item :: after ∧
      (∀ earlier ∈ before, ∃ value, each earlier = .ok value) ∧ each item = .error fault := by
  induction items with
  | nil =>
      refine iff_of_false nofun ?_
      rintro ⟨before, item, after, impossible, _⟩
      simp at impossible
  | cons item rest ih =>
      rw [List.mapM_cons, except_bind_eq_error]
      constructor
      · rintro (here | ⟨value, given, later⟩)
        · exact ⟨[], item, rest, rfl, nofun, here⟩
        · obtain later | ⟨_, _, impossible⟩ := except_bind_eq_error.1 later
          · obtain ⟨before, other, after, rfl, good, failed⟩ := ih.1 later
            exact ⟨item :: before, other, after, rfl,
              List.forall_mem_cons.2 ⟨⟨value, given⟩, good⟩, failed⟩
          · cases impossible
      · rintro ⟨before, other, after, split, good, failed⟩
        cases before with
        | nil =>
            obtain ⟨rfl, rfl⟩ := List.cons.inj split
            exact .inl failed
        | cons first before =>
            obtain ⟨rfl, rfl⟩ := List.cons.inj split
            obtain ⟨⟨value, given⟩, good⟩ := List.forall_mem_cons.1 good
            refine .inr ⟨value, given, except_bind_eq_error.2 (.inl (ih.2 ?_))⟩
            exact ⟨before, other, after, rfl, good, failed⟩

namespace Checked

variable {α β : Type} {checked : Checked α} {result : α}

@[simp] theorem within_eq_ok {part : Check.Part} :
    checked.within part = .ok result ↔ checked = .ok result := by
  cases checked <;> simp [within, Except.mapError]

theorem bind_eq_ok {next : α → Checked β} {result : β} :
    (checked >>= next) = .ok result ↔ ∃ value, checked = .ok value ∧ next value = .ok result :=
  except_bind_eq_ok

@[simp] theorem pure_eq_ok {value : α} : (pure value : Checked α) = .ok result ↔ value = result :=
  ⟨Except.ok.inj, congrArg _⟩

theorem map_eq_ok {image : α → β} {result : β} :
    checked.map image = .ok result ↔ ∃ value, checked = .ok value ∧ image value = result := by
  cases checked <;> simp [Except.map]

@[simp] theorem both_eq_ok {other : Checked β} {results : α × β} :
    both checked other = .ok results ↔ checked = .ok results.1 ∧ other = .ok results.2 := by
  obtain ⟨left, right⟩ := results
  cases checked <;> cases other <;> simp [both]

@[simp] theorem all_eq_ok {checks : List (Checked α)} {results : List α} :
    all checks = .ok results ↔ List.Forall₂ (fun checked result => checked = .ok result)
      checks results := by
  induction checks generalizing results with
  | nil =>
      rw [all, List.forall₂_nil_left_iff]
      exact ⟨fun success => (Except.ok.inj success).symm, congrArg _ ∘ Eq.symm⟩
  | cons first rest ih =>
      simp only [all, map_eq_ok, both_eq_ok, List.forall₂_cons_left_iff, ih]
      constructor
      · intro given
        rcases given with ⟨⟨value, values⟩, ⟨success, others⟩, rfl⟩
        exact ⟨value, values, success, others, rfl⟩
      · intro given
        rcases given with ⟨value, values, success, others, rfl⟩
        exact ⟨(value, values), ⟨success, others⟩, rfl⟩

/-- Each result of several checks is that of one of them. -/
theorem exists_of_mem_all {checks : List (Checked α)} {results : List α}
    (success : all checks = .ok results) (member : result ∈ results) :
    .ok result ∈ checks := by
  rw [all_eq_ok] at success
  induction success with
  | nil => cases member
  | cons head _ ih =>
      rcases List.mem_cons.1 member with rfl | member
      · exact head ▸ List.mem_cons_self
      · exact List.mem_cons_of_mem _ (ih member)

end Checked

namespace Check

open Value

variable {α κ : Type} {check : Value → Checked α} {value : Value}

theorem optional_eq_ok {result : α} (success : optional check value = .ok (some result)) :
    check value = .ok result := by
  unfold optional at success
  split at success
  next => cases success
  next => simpa [Functor.map, Checked.map_eq_ok] using success

theorem optional_of_ne_null (notNull : value ≠ .null) :
    optional check value = some <$> check value := by
  unfold optional
  split
  next => exact absurd rfl notNull
  next => rfl

theorem mem_itemsFrom {position : Nat} {items : List Value} {checked : Checked α}
    (member : checked ∈ itemsFrom check position items) :
    ∃ item ∈ items, ∃ part, checked = (check item).within part := by
  induction items generalizing position with
  | nil => cases member
  | cons item rest ih =>
      rw [itemsFrom, List.mem_cons] at member
      rcases member with rfl | member
      · exact ⟨item, List.mem_cons_self, _, rfl⟩
      · obtain ⟨other, later, found⟩ := ih member
        exact ⟨other, List.mem_cons_of_mem _ later, found⟩

theorem exists_of_mem_itemsFrom {position : Nat} {items : List Value} {results : List α}
    (success : Checked.all (itemsFrom check position items) = .ok results) {result : α}
    (member : result ∈ results) : ∃ item ∈ items, check item = .ok result := by
  obtain ⟨item, inside, _, found⟩ := mem_itemsFrom (Checked.exists_of_mem_all success member)
  exact ⟨item, inside, Checked.within_eq_ok.1 found.symm⟩

/-- The items of a list that was accepted are accepted parts of the value, unless they are
scalars of a set. -/
theorem list_eq_ok {results : List α} (success : list check value = .ok results) {result : α}
    (member : result ∈ results) :
    ∃ item, check item = .ok result ∧ (DeepPart item value ∨ ∃ scalar, item = .scalar scalar) := by
  unfold list at success
  split at success
  next items =>
    obtain ⟨item, inside, accepted⟩ := exists_of_mem_itemsFrom success member
    exact ⟨item, accepted, .inl (.item inside (.whole item))⟩
  next items =>
    obtain ⟨item, inside, accepted⟩ := exists_of_mem_itemsFrom success member
    exact ⟨item, accepted, .inl (.component inside (.whole item))⟩
  next items =>
    obtain ⟨item, inside, accepted⟩ := exists_of_mem_itemsFrom success member
    obtain ⟨scalar, _, rfl⟩ := List.mem_map.1 inside
    exact ⟨_, accepted, .inr ⟨scalar, rfl⟩⟩
  next => cases success

/-- The entries of a mapping that was accepted stem from its entries. -/
theorem mapping_eq_ok [BEq κ] [LawfulBEq κ] {checkKey : Scalar → Checked κ}
    {results : List (κ × α)} (success : mapping checkKey check value = .ok results) :
    ∃ entries, value = .mapping entries ∧ (results.map Prod.fst).Nodup ∧
      ∀ result ∈ results, ∃ entry ∈ entries,
        checkKey entry.1 = .ok result.1 ∧ check entry.2 = .ok result.2 := by
  unfold mapping at success
  split at success
  next entries =>
    rw [Checked.map_eq_ok] at success
    obtain ⟨checked, success, rfl⟩ := success
    refine ⟨entries, rfl, Fields.nodup_putAll (by simp), ?_⟩
    intro result member
    rcases Fields.mem_of_mem_putAll member with impossible | member
    · cases impossible
    · have found := Checked.exists_of_mem_all success member
      rw [List.mem_map] at found
      obtain ⟨entry, inside, found⟩ := found
      rw [Check.entry, Checked.both_eq_ok] at found
      simp only [Checked.within_eq_ok] at found
      exact ⟨entry, inside, found⟩
  next => cases success

@[simp] theorem record_eq_ok_iff {name : String} {entries : Entries} :
    record name value = .ok entries ↔ value = .mapping entries := by
  unfold record
  constructor
  · intro success
    split at success
    next => exact congrArg _ (Except.ok.inj success)
    next => cases success
  · rintro rfl
    rfl

theorem record_eq_ok {name : String} {entries : Entries}
    (success : record name value = .ok entries) : value = .mapping entries :=
  record_eq_ok_iff.1 success

theorem mem_of_find? {entries : Entries} {names : List String} {name : String}
    (found : find? entries names = some (name, value)) :
    name ∈ names ∧ Entries.get? entries (.text name) = some value := by
  unfold find? at found
  obtain ⟨candidate, member, found⟩ := List.exists_of_findSome?_eq_some found
  rw [Option.map_eq_some_iff] at found
  obtain ⟨other, found, equal⟩ := found
  cases equal
  exact ⟨member, found⟩

/-- A field is a default or has been checked. -/
theorem fieldOr_eq_ok {default result : α} {entries : Entries} {names : List String}
    (success : fieldOr default entries names check = .ok result) :
    result = default ∨ ∃ name ∈ names, ∃ value, Entries.get? entries (.text name) = some value ∧
      check value = .ok result := by
  unfold fieldOr at success
  split at success
  next name value found =>
    obtain ⟨member, found⟩ := mem_of_find? found
    exact .inr ⟨name, member, value, found, Checked.within_eq_ok.1 success⟩
  next => exact .inl (Except.ok.inj success).symm

/-- A field under one name is what a check makes of its value, or a default where it is not
there. -/
def Chosen (default : α) (entries : Entries) (name : String) (check : Value → Checked α)
    (result : α) : Prop :=
  match Entries.get? entries (.text name) with
  | some value => check value = .ok result
  | none => result = default

@[simp] theorem fieldOr_eq_ok_iff {default result : α} {entries : Entries} {name : String} :
    fieldOr default entries [name] check = .ok result ↔
      Chosen default entries name check result := by
  unfold fieldOr Chosen find?
  cases found : Entries.get? entries (.text name) with
  | some value => simp [found]
  | none => simp [found, @eq_comm _ default]

end Check

end RouteTypes
