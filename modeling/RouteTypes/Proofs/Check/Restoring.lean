import RouteTypes.Proofs.Check.Success
import RouteTypes.Proofs.Value.Entries

/-!
# Checks of what has been written

A result of a check is written as a value, and checked again. A check restores its results when it
accepts what is written of them and makes the same of it (`Restores`). What is built of such checks
restores its results as well: mappings, lists, and the fields of records.
-/

namespace RouteTypes.Check

variable {α κ : Type} {check : Value → Checked α} {toValue : α → Value}
variable {entries : Entries} {declared : List (List String)} {names used : List String}
variable {front others : Fields} {name : String}

/-- What is written of a result of a check is accepted, and becomes the same result. -/
def Restores (check : Value → Checked α) (toValue : α → Value) : Prop :=
  ∀ value result, check value = .ok result → check (toValue result) = .ok result

/-! ## Mappings and lists -/

/-- The results of a mapping are those of its entries, one after the other. -/
theorem forall₂_of_mapping [BEq κ] {checkKey : Scalar → Checked κ} {results : List (κ × α)}
    (success : mapping checkKey check (.mapping entries) = .ok results) :
    ∃ checked, List.Forall₂ (fun entry result => checkKey entry.1 = .ok result.1 ∧
      check entry.2 = .ok result.2) entries checked ∧ Fields.putAll [] checked = results := by
  rw [mapping, Checked.map_eq_ok] at success
  obtain ⟨checked, all, made⟩ := success
  rw [Checked.all_eq_ok, List.forall₂_map_left_iff] at all
  refine ⟨checked, all.imp fun _ _ success => ?_, made⟩
  rw [Check.entry, Checked.both_eq_ok] at success
  simpa using success

/-- Entries whose keys become distinct are checked one after the other. -/
theorem mapping_of_forall₂ [BEq κ] [LawfulBEq κ] {checkKey : Scalar → Checked κ}
    {results : List (κ × α)} (distinct : (results.map Prod.fst).Nodup)
    (each : List.Forall₂ (fun entry result => checkKey entry.1 = .ok result.1 ∧
      check entry.2 = .ok result.2) entries results) :
    mapping checkKey check (.mapping entries) = .ok results := by
  rw [mapping, Checked.map_eq_ok]
  refine ⟨results, ?_, Fields.putAll_nil_of_nodup distinct⟩
  rw [Checked.all_eq_ok, List.forall₂_map_left_iff]
  refine each.imp fun _ _ success => ?_
  rw [Check.entry, Checked.both_eq_ok]
  simpa using success

/-- A mapping is written with its keys as texts. -/
theorem restores_mapping [BEq κ] [LawfulBEq κ] {checkKey : Scalar → Checked κ}
    {keyText : κ → String} (keys : ∀ key, checkKey (.text (keyText key)) = .ok key)
    (restores : Restores check toValue) :
    Restores (mapping checkKey check) fun results =>
      .ofFields (results.map fun result => (keyText result.1, toValue result.2)) := by
  intro value results success
  obtain ⟨_, rfl, distinct, stems⟩ := mapping_eq_ok success
  refine mapping_of_forall₂ distinct ?_
  rw [List.map_map, List.forall₂_map_left_iff, List.forall₂_same]
  intro result member
  obtain ⟨entry, _, _, checked⟩ := stems result member
  exact ⟨keys result.1, restores entry.2 result.2 checked⟩

theorem restores_fields (restores : Restores check toValue) :
    Restores (Check.fields check) fun results =>
      .ofFields (results.map fun result => (result.1, toValue result.2)) := by
  have keys (name : String) : scalarText (.text name) = .ok name := rfl
  exact restores_mapping keys restores

theorem restores_anyFields : Restores anyFields .ofFields := by
  have any : Restores (.ok : Value → Checked Value) id := fun _ _ _ => rfl
  have restores := restores_fields any
  simp only [id_eq, List.map_id'] at restores
  exact restores

theorem all_itemsFrom {results : List α} (position : Nat)
    (each : ∀ result ∈ results, check (toValue result) = .ok result) :
    Checked.all (itemsFrom check position (results.map toValue)) = .ok results := by
  induction results generalizing position with
  | nil => rfl
  | cons result rest ih =>
      rw [List.map_cons, itemsFrom, Checked.all, each result List.mem_cons_self,
        ih (position + 1) fun other member => each other (List.mem_cons_of_mem _ member)]
      rfl

theorem restores_list (restores : Restores check toValue) :
    Restores (list check) fun results => .list (results.map toValue) := by
  intro value results success
  refine all_itemsFrom 0 fun result member => ?_
  obtain ⟨item, checked, _⟩ := list_eq_ok success member
  exact restores item result checked

/-- A value that may be absent is written as the absent value where it is. -/
theorem restores_optional {toValue : Option α → Value} (absent : toValue none = .null)
    (present : ∀ result, (toValue (some result)).isNull = false)
    (restores : Restores check fun result => toValue (some result)) :
    Restores (optional check) toValue := by
  intro value result success
  cases result with
  | none => rw [absent, optional]
  | some result =>
      have checked := restores value result (optional_eq_ok success)
      have given := present result
      unfold optional
      split
      next isNull =>
        rw [isNull] at given
        cases given
      next => rw [checked]; rfl

/-! ## Records -/

/-- The key is none of the given names. -/
def isBeside (used : List String) : Scalar → Bool
  | .text name => !used.contains name
  | _ => true

/-- The extras of a record are its entries under other keys than the given names, in their order,
which are all texts. -/
@[simp] theorem extrasBeside_eq_ok : extrasBeside used entries = .ok others ↔
    entries.filter (isBeside used ·.1) = others.map fun field => (.text field.1, field.2) := by
  induction entries generalizing others with
  | nil => cases others <;> simp [extrasBeside]
  | cons entry rest ih =>
      obtain ⟨key, value⟩ := entry
      cases key with
      | text name =>
          rw [extrasBeside, List.filter_cons]
          by_cases known : used.contains name = true
          · rw [if_pos known, if_neg (by rw [isBeside, known]; simp), ih]
          · rw [if_neg known, if_pos (by simpa [isBeside] using known), Checked.map_eq_ok]
            constructor
            · rintro ⟨later, success, rfl⟩
              rw [ih.1 success, List.map_cons]
            · intro same
              cases others with
              | nil => cases same
              | cons field later =>
                  rw [List.map_cons, List.cons.injEq, Prod.mk.injEq, Scalar.text.injEq] at same
                  obtain ⟨⟨rfl, rfl⟩, same⟩ := same
                  exact ⟨later, ih.2 same, rfl⟩
      | _ =>
          rw [extrasBeside, List.filter_cons]
          · cases others <;>
              simp [isBeside, Checked.map_eq_ok, Checked.both_eq_ok, Checked.within_eq_ok,
                Checked.fail]
          · rintro _ ⟨⟩

/-- The first name of a declared field never stands among the extras. -/
theorem first_not_mem_extras (success : extras entries declared = .ok others)
    (member : name :: names ∈ declared) : name ∉ others.map Prod.fst := by
  rw [extras, extrasBeside_eq_ok] at success
  intro stands
  obtain ⟨field, inside, rfl⟩ := List.mem_map.1 stands
  have kept : (Scalar.text field.1, field.2) ∈ entries.filter (isBeside _ ·.1) :=
    success ▸ List.mem_map_of_mem inside
  rw [List.mem_filter] at kept
  obtain ⟨value, found⟩ : ∃ value, Entries.get? entries (.text field.1) = some value := by
    rw [← Option.isSome_iff_exists, Entries.get?, Option.isSome_map, List.find?_isSome]
    exact ⟨_, kept.1, by simp⟩
  have isUsed : field.1 ∈ declared.filterMap fun names => (find? entries names).map Prod.fst :=
    List.mem_filterMap.2 ⟨_, member, by simp [find?, found]⟩
  simp [isBeside, isUsed] at kept

/-- The entries of a record that is written with its declared fields in front of its extras. -/
def written (front others : Fields) : Entries :=
  (front ++ others).map fun field => (.text field.1, field.2)

/-- A field that is written under its first name is found there. -/
theorem find?_written {value : Value} (stands : Fields.get? front name = some value) :
    find? (written front others) (name :: names) = some (name, value) := by
  have found : Entries.get? (written front others) (.text name) = some value := by
    rw [written, get?_ofFields, Fields.get?_append, stands]
    rfl
  simp [find?, found]

/-- What is written of a field that may be left out becomes the same field. -/
theorem fieldOr_written {default result : α} {candidates : List String}
    (restores : Restores check toValue) (fixed : check (toValue default) = .ok default)
    (success : fieldOr default entries candidates check = .ok result)
    (stands : Fields.get? front name = some (toValue result)) :
    fieldOr default (written front others) (name :: names) check = .ok result := by
  have restored : check (toValue result) = .ok result := by
    rcases fieldOr_eq_ok success with rfl | ⟨_, _, value, _, checked⟩
    · exact fixed
    · exact restores value result checked
  rw [fieldOr, find?_written stands]
  exact Checked.within_eq_ok.2 restored

/-- What is written of a field that has to be there becomes the same field. -/
theorem field_written {result : α} {candidates : List String}
    (restores : Restores check toValue) (success : field entries candidates check = .ok result)
    (stands : Fields.get? front name = some (toValue result)) :
    field (written front others) (name :: names) check = .ok result := by
  have restored : check (toValue result) = .ok result := by
    unfold field at success
    split at success
    next value _ => exact restores value result (Checked.within_eq_ok.1 success)
    next => cases Checked.within_eq_ok.1 success
  rw [field, find?_written stands]
  exact Checked.within_eq_ok.2 restored

/-- The extras of a record stay its extras when its declared fields are written under their first
names. -/
theorem extras_written (success : extras entries declared = .ok others)
    (firsts : front.map Prod.fst = declared.map (·.headD "")) (named : [] ∉ declared) :
    extras (written front others) declared = .ok others := by
  have used : (declared.filterMap fun names =>
      (find? (written front others) names).map Prod.fst) = front.map Prod.fst := by
    rw [firsts, ← List.filterMap_eq_map]
    refine List.filterMap_congr fun names member => ?_
    cases names with
    | nil => exact absurd member named
    | cons name rest =>
        have stands : name ∈ front.map Prod.fst := firsts ▸ List.mem_map_of_mem member
        obtain ⟨value, found⟩ := Option.ne_none_iff_exists'.1
          (mt Fields.get?_eq_none_iff.1 (not_not_intro stands))
        rw [find?_written found]
        rfl
  rw [extras, used, extrasBeside_eq_ok, written, List.map_append, List.filter_append]
  have declaredOnly : (front.map fun field => (Scalar.text field.1, field.2)).filter
      (isBeside (front.map Prod.fst) ·.1) = [] := by
    rw [List.filter_eq_nil_iff]
    intro entry member
    obtain ⟨field, inside, rfl⟩ := List.mem_map.1 member
    simp [isBeside, List.mem_map_of_mem inside]
  have othersOnly : (others.map fun field => (Scalar.text field.1, field.2)).filter
      (isBeside (front.map Prod.fst) ·.1) = others.map fun field => (.text field.1, field.2) := by
    rw [List.filter_eq_self]
    intro entry member
    obtain ⟨field, inside, rfl⟩ := List.mem_map.1 member
    have absent : field.1 ∉ front.map Prod.fst := by
      rw [firsts]
      intro stands
      obtain ⟨names, member, first⟩ := List.mem_map.1 stands
      cases names with
      | nil => exact named member
      | cons name rest =>
          obtain rfl : name = field.1 := first
          exact first_not_mem_extras success member (List.mem_map_of_mem inside)
    simpa [isBeside] using absent
  rw [declaredOnly, othersOnly, List.nil_append]

end RouteTypes.Check
