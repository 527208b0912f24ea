import RouteTypes.Value

/-!
# Fields by name

How setting fields changes which of them there are. A name that is there keeps its place, so
names that stand once each go on standing once each.
-/

namespace RouteTypes.Fields

variable {κ α : Type} [BEq κ] {fields additions : List (κ × α)} {name : κ}

@[simp] theorem putAll_nil : putAll fields [] = fields := rfl

@[simp] theorem putAll_cons (field : κ × α) :
    putAll fields (field :: additions) = putAll (put fields field.1 field.2) additions := rfl

@[simp] theorem get?_nil (name : κ) : get? ([] : List (κ × α)) name = none := rfl

@[simp] theorem get?_cons (field : κ × α) (name : κ) :
    get? (field :: fields) name = if field.1 == name then some field.2 else get? fields name := by
  by_cases equal : (field.1 == name) = true <;> simp [get?, equal]

@[simp] theorem get?_append (name : κ) :
    get? (fields ++ additions) name = (get? fields name).or (get? additions name) := by
  rw [get?, List.find?_append, Option.map_or]
  rfl

/-- Setting what stands there already changes nothing. -/
theorem put_of_get? {value : α} (found : get? fields name = some value) :
    put fields name value = fields := by
  induction fields with
  | nil => cases found
  | cons field rest ih =>
      rw [get?_cons] at found
      rw [put]
      split at found
      next equal =>
        cases found
        rw [if_pos equal]
      next different => rw [if_neg different, ih found]

variable [LawfulBEq κ]

theorem mem_of_get? {value : α} (found : get? fields name = some value) :
    (name, value) ∈ fields := by
  induction fields with
  | nil => cases found
  | cons field rest ih =>
      rw [get?_cons] at found
      split at found
      next equal =>
        rw [← eq_of_beq equal, ← Option.some.inj found]
        exact List.mem_cons_self
      next => exact List.mem_cons_of_mem _ (ih found)

theorem get?_eq_none_iff : get? fields name = none ↔ name ∉ fields.map Prod.fst := by
  induction fields with
  | nil => simp
  | cons field rest ih =>
      rw [get?_cons]
      by_cases equal : field.1 = name
      · simp [equal]
      · simp [equal, Ne.symm equal, ih]

/-- What stands under a name that stands once is found. -/
theorem get?_of_mem (distinct : (fields.map Prod.fst).Nodup) {value : α}
    (member : (name, value) ∈ fields) : get? fields name = some value := by
  induction fields with
  | nil => cases member
  | cons field rest ih =>
      rw [List.map_cons, List.nodup_cons] at distinct
      rw [get?_cons]
      rcases List.mem_cons.1 member with rfl | inRest
      · simp
      · have different : field.1 ≠ name := by
          intro same
          exact distinct.1 (same ▸ List.mem_map_of_mem inRest)
        rw [if_neg (by simpa using different)]
        exact ih distinct.2 inRest

/-- The names after a field was set: those from before, and its name at the end where it is new. -/
theorem names_put (value : α) :
    (put fields name value).map Prod.fst =
      if name ∈ fields.map Prod.fst then fields.map Prod.fst
      else fields.map Prod.fst ++ [name] := by
  induction fields with
  | nil => simp [put]
  | cons field rest ih =>
      rw [put]
      by_cases equal : field.1 = name
      · simp [equal]
      · rw [if_neg (by simpa using equal), List.map_cons, ih]
        by_cases present : name ∈ rest.map Prod.fst <;> simp_all [Ne.symm equal]

theorem mem_names_put {other : κ} (value : α) :
    other ∈ (put fields name value).map Prod.fst ↔ other ∈ fields.map Prod.fst ∨ other = name := by
  rw [names_put]
  split
  next present =>
    constructor
    · exact .inl
    · rintro (member | rfl)
      · exact member
      · exact present
  next => simp

/-- A field that was set is found, and the others are as before. -/
@[simp] theorem get?_put (value : α) (other : κ) :
    get? (put fields name value) other =
      if name == other then some value else get? fields other := by
  induction fields with
  | nil => rw [put, get?_cons]
  | cons field rest ih =>
      rw [put]
      by_cases equal : field.1 = name
      · subst equal
        rw [if_pos (beq_self_eq_true _), get?_cons, get?_cons]
        split <;> rfl
      · rw [if_neg (by simpa using equal), get?_cons, get?_cons, ih]
        by_cases same : field.1 = other
        · subst same
          simp [Ne.symm equal]
        · simp [same]

theorem put_of_absent (absent : name ∉ fields.map Prod.fst) (value : α) :
    put fields name value = fields ++ [(name, value)] := by
  induction fields with
  | nil => rfl
  | cons field rest ih =>
      rw [List.map_cons, List.mem_cons, not_or] at absent
      rw [put, if_neg (by simpa using Ne.symm absent.1), ih absent.2, List.cons_append]

theorem nodup_put (distinct : (fields.map Prod.fst).Nodup) (value : α) :
    ((put fields name value).map Prod.fst).Nodup := by
  rw [names_put]
  split
  next => exact distinct
  next absent =>
    rw [List.nodup_append]
    refine ⟨distinct, by simp, ?_⟩
    intro other present added member
    rw [List.mem_singleton] at member
    subst member
    exact fun same => absent (same ▸ present)

theorem nodup_putAll (distinct : (fields.map Prod.fst).Nodup) :
    ((putAll fields additions).map Prod.fst).Nodup := by
  induction additions generalizing fields with
  | nil => exact distinct
  | cons field rest ih => exact ih (nodup_put distinct field.2)

/-- Fields with distinct names that are set one after the other stay as they are. -/
theorem putAll_nil_of_nodup (distinct : (additions.map Prod.fst).Nodup) :
    putAll [] additions = additions := by
  have laid (before : List (κ × α)) (whole : ((before ++ additions).map Prod.fst).Nodup) :
      putAll before additions = before ++ additions := by
    clear distinct
    induction additions generalizing before with
    | nil => simp
    | cons field rest ih =>
        have absent : field.1 ∉ before.map Prod.fst := by
          rw [List.map_append, List.nodup_append] at whole
          intro member
          exact whole.2.2 _ member _ (by simp) rfl
        rw [putAll_cons, put_of_absent absent, ih, List.append_assoc]
        · rfl
        · rwa [List.append_assoc]
  exact laid [] distinct

/-- A field that was set stands there, and the others do as before. -/
@[simp] theorem mem_put (distinct : (fields.map Prod.fst).Nodup) {value : α} {field : κ × α} :
    field ∈ put fields name value ↔ field = (name, value) ∨ field.1 ≠ name ∧ field ∈ fields := by
  induction fields with
  | nil => simp [put]
  | cons first rest ih =>
      rw [List.map_cons, List.nodup_cons] at distinct
      rw [put]
      by_cases equal : first.1 = name
      · have others : ∀ other ∈ rest, other.1 ≠ name := by
          intro other member same
          exact distinct.1 (equal ▸ same ▸ List.mem_map_of_mem member)
        rw [if_pos (by simpa using equal), List.mem_cons, List.mem_cons, equal]
        constructor
        · intro given
          rcases given with new | old
          · exact .inl new
          · exact .inr ⟨others field old, .inr old⟩
        · intro given
          rcases given with new | ⟨different, old | old⟩
          · exact .inl new
          · exact absurd (old ▸ equal) different
          · exact .inr old
      · rw [if_neg (by simpa using equal), List.mem_cons, List.mem_cons, ih distinct.2]
        constructor
        · intro given
          rcases given with rfl | new | ⟨different, old⟩
          · exact .inr ⟨equal, .inl rfl⟩
          · exact .inl new
          · exact .inr ⟨different, .inr old⟩
        · intro given
          rcases given with new | ⟨different, old | old⟩
          · exact .inr (.inl new)
          · exact .inl old
          · exact .inr (.inr ⟨different, old⟩)

theorem mem_of_mem_put {value : α} {field : κ × α} (member : field ∈ put fields name value) :
    field = (name, value) ∨ field ∈ fields := by
  induction fields with
  | nil => exact .inl (by simpa [put] using member)
  | cons first rest ih =>
      rw [put] at member
      split at member
      next equal =>
        rcases List.mem_cons.1 member with rfl | old
        · exact .inl (by rw [eq_of_beq equal])
        · exact .inr (List.mem_cons_of_mem _ old)
      next =>
        rcases List.mem_cons.1 member with rfl | member
        · exact .inr List.mem_cons_self
        · exact (ih member).imp_right (List.mem_cons_of_mem _)

/-- Every field stems from one of the two lists. -/
theorem mem_of_mem_putAll {field : κ × α} (member : field ∈ putAll fields additions) :
    field ∈ fields ∨ field ∈ additions := by
  induction additions generalizing fields with
  | nil => exact .inl member
  | cons addition rest ih =>
      rw [putAll_cons] at member
      rcases ih member with member | later
      · rcases mem_of_mem_put member with rfl | old
        · exact .inr List.mem_cons_self
        · exact .inl old
      · exact .inr (List.mem_cons_of_mem _ later)

end RouteTypes.Fields
