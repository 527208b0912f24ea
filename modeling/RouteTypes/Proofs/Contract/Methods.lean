import RouteTypes.Proofs.Check.Restoring
import RouteTypes.Proofs.Contract.Extras

/-!
# The methods of a path item

A path item is a mapping in which some keys name methods. What stands under these is collected as
its operations, and all other keys become extras, both in their order. This goes wrong exactly where
one of the other keys is named as the collection itself: then the methods are not collected, and
what stands under this key is taken for the operations (`checkPathItem_collected`,
`own_collection_counts`).
-/

namespace RouteTypes.Contract

open Check

variable {entries methods others : Entries} {item : PathItem} {name : String}

/-- A path item has the operations that stand under the given keys, which name methods, in their
order, and other entries as its extras. -/
structure PathItem.Of (methods others : Entries) (item : PathItem) : Prop where
  operations : List.Forall₂ (fun entry operation => entry.1 = .text operation.1.name ∧
    optional checkOperation entry.2 = .ok operation.2) methods item.operations
  extras : Value.ofFields item.extras = .mapping others

/-! ## Keys that name methods -/

@[simp] theorem choice_method {method : Method} :
    choice Method.names (.text name) = .ok method ↔ name = method.name := by
  constructor
  · intro success
    unfold choice at success
    dsimp only [scalarText] at success
    split at success
    next found =>
      cases success
      obtain ⟨_, _, parts, _⟩ := List.lookup_eq_some_iff.1 found
      have known : (name, method) ∈ Method.names := by simp [parts]
      have named : ∀ entry ∈ Method.names, entry.1 = entry.2.name := by decide
      exact named _ known
    next => cases success
  · rintro rfl
    cases method <;> rfl

@[simp] theorem isMethodKey_name (method : Method) : isMethodKey (.text method.name) = true := by
  cases method <;> rfl

theorem isMethodKey_iff {key : Scalar} :
    isMethodKey key = true ↔ ∃ method : Method, key = .text method.name := by
  constructor
  · intro isMethod
    cases key with
    | text name =>
        simp only [isMethodKey, Method.isName, List.any_eq_true, beq_iff_eq] at isMethod
        obtain ⟨entry, known, rfl⟩ := isMethod
        have named : ∀ entry ∈ Method.names, entry.1 = entry.2.name := by decide
        exact ⟨entry.2, congrArg _ (named entry known)⟩
    | _ => cases isMethod
  · rintro ⟨method, rfl⟩
    exact isMethodKey_name method

/-- Operations that stand under distinct keys are collected one by one. -/
theorem mapping_methods {operations : List (Method × Option Operation)}
    (textual : Entries.Textual methods) :
    mapping (choice Method.names) (optional checkOperation) (.mapping methods) = .ok operations ↔
      List.Forall₂ (fun entry operation => entry.1 = .text operation.1.name ∧
        optional checkOperation entry.2 = .ok operation.2) methods operations := by
  have nodup {operations : List (Method × Option Operation)}
      (each : List.Forall₂ (fun entry operation => entry.1 = .text operation.1.name ∧
        optional checkOperation entry.2 = .ok operation.2) methods operations) :
      (operations.map Prod.fst).Nodup := by
    have keys : methods.map Prod.fst =
        (operations.map Prod.fst).map fun method => .text method.name := by
      rw [List.map_map, ← List.forall₂_eq_eq_eq, List.forall₂_map_left_iff,
        List.forall₂_map_right_iff]
      exact each.imp fun _ _ => And.left
    have distinct := textual.distinct
    rw [keys] at distinct
    exact distinct.of_map _
  constructor
  · intro success
    obtain ⟨checked, each, rfl⟩ := forall₂_of_mapping success
    have named : List.Forall₂ (fun entry operation => entry.1 = .text operation.1.name ∧
        optional checkOperation entry.2 = .ok operation.2) methods checked := by
      refine ((List.forall₂_and_left _ _).2 ⟨textual.texts, each⟩).imp
        fun entry operation given => ?_
      obtain ⟨⟨name, isText⟩, checked⟩ := given
      rw [isText, choice_method] at checked
      exact ⟨isText.trans (congrArg _ checked.1), checked.2⟩
    rwa [Fields.putAll_nil_of_nodup (nodup named)]
  · intro each
    refine mapping_of_forall₂ (nodup each) (each.imp fun entry operation checked => ?_)
    rw [checked.1]
    exact ⟨choice_method.2 rfl, checked.2⟩

/-! ## Path items -/

/-- A path item that was accepted has a collection of its operations, its own or one that was made
of its methods, and everything beside this becomes extras. -/
theorem checkPathItem_eq_ok : checkPathItem (.mapping entries) = .ok item ↔
    ∃ own, Entries.get? (collectOperations entries) (.text "operations") = some own ∧
      mapping (choice Method.names) (optional checkOperation) own = .ok item.operations ∧
      Value.ofFields item.extras = .mapping
        ((collectOperations entries).filter fun entry => entry.1 != .text "operations") := by
  obtain ⟨own, found⟩ :
      ∃ own, Entries.get? (collectOperations entries) (.text "operations") = some own := by
    unfold collectOperations
    split
    next given => exact Option.isSome_iff_exists.1 given
    next absent => exact ⟨_, get?_collected _ _ (by simpa using absent)⟩
  have beside : isBeside ["operations"] = fun key => key != .text "operations" := by
    funext key
    cases key <;> simp [isBeside, bne, Bool.beq_eq_decide_eq]
  have used : [["operations"]].filterMap (fun names =>
      (find? (collectOperations entries) names).map Prod.fst) = ["operations"] := by
    simp [find?, found]
  have extras (others : Fields) : Check.extras (collectOperations entries) [["operations"]] =
      .ok others ↔ Value.ofFields others = .mapping
        ((collectOperations entries).filter fun entry => entry.1 != .text "operations") := by
    rw [Check.extras, used, extrasBeside_eq_ok, beside, Value.ofFields, Value.mapping.injEq,
      eq_comm]
  have checked : checkPathItem (.mapping entries) = .ok item ↔
      mapping (choice Method.names) (optional checkOperation) own = .ok item.operations ∧
        Check.extras (collectOperations entries) [["operations"]] = .ok item.extras := by
    simp only [checkPathItem, Checked.bind_eq_ok, Functor.map, Checked.map_eq_ok]
    constructor
    · rintro ⟨_, ⟨_, ⟨⟩, rfl⟩, ⟨operations, others⟩, both, ⟨⟩⟩
      rw [fieldOr_of_get? found, Checked.both_eq_ok, Checked.within_eq_ok] at both
      exact both
    · intro both
      refine ⟨_, ⟨_, rfl, rfl⟩, (item.operations, item.extras), ?_, rfl⟩
      rw [fieldOr_of_get? found, Checked.both_eq_ok, Checked.within_eq_ok]
      exact both
  rw [checked, extras]
  simp [found]

/-- A path item without a collection of its operations has those that stand under methods. -/
theorem checkPathItem_of_absent (textual : Entries.Textual entries)
    (absent : .text "operations" ∉ entries.map Prod.fst) :
    checkPathItem (.mapping entries) = .ok item ↔
      item.Of (entries.filter fun entry => isMethodKey entry.1)
        (entries.filter fun entry => !isMethodKey entry.1) := by
  have none : Entries.get? entries (.text "operations") = none := by
    by_contra given
    obtain ⟨_, found⟩ := Option.ne_none_iff_exists'.1 given
    exact absent (List.mem_map_of_mem (Entries.mem_of_get? found))
  have collected : collectOperations entries =
      entries.filter (fun entry => !isMethodKey entry.1) ++
        [(.text "operations", .mapping (entries.filter fun entry => isMethodKey entry.1))] := by
    rw [collectOperations, none]
    rfl
  have extras : (collectOperations entries).filter (fun entry => entry.1 != .text "operations") =
      entries.filter fun entry => !isMethodKey entry.1 := by
    rw [collected, List.filter_append, List.filter_filter]
    have others (entry : Scalar × Value) (member : entry ∈ entries) :
        (entry.1 != .text "operations" && !isMethodKey entry.1) = !isMethodKey entry.1 := by
      have other : entry.1 ≠ .text "operations" := by
        intro same
        exact absent (same ▸ List.mem_map_of_mem member)
      simp [other]
    rw [List.filter_congr others]
    simp
  have methods := textual.filter fun entry => isMethodKey entry.1
  rw [checkPathItem_eq_ok, extras, collected, get?_collected _ _ none]
  constructor
  · rintro ⟨own, ⟨⟩, checked, others⟩
    exact ⟨(mapping_methods methods).1 checked, others⟩
  · rintro ⟨operations, others⟩
    exact ⟨_, rfl, (mapping_methods methods).2 operations, others⟩

/-- A path item with a collection of its operations has these. -/
theorem checkPathItem_of_own {own : Value}
    (found : Entries.get? entries (.text "operations") = some own) :
    checkPathItem (.mapping entries) = .ok item ↔
      mapping (choice Method.names) (optional checkOperation) own = .ok item.operations ∧
        Value.ofFields item.extras = .mapping
          (entries.filter fun entry => entry.1 != .text "operations") := by
  have kept : collectOperations entries = entries := by simp [collectOperations, found]
  rw [checkPathItem_eq_ok, kept]
  simp [found]

/-! ## Values of other keys -/

theorem exists_fields (others : Entries) (texts : ∀ entry ∈ others, ∃ name, entry.1 = .text name) :
    ∃ fields, Value.ofFields fields = .mapping others := by
  induction others with
  | nil => exact ⟨[], rfl⟩
  | cons entry rest ih =>
      obtain ⟨fields, same⟩ := ih fun other member => texts other (List.mem_cons_of_mem _ member)
      obtain ⟨name, isText⟩ := texts entry List.mem_cons_self
      rw [Value.ofFields, Value.mapping.injEq] at same
      refine ⟨(name, entry.2) :: fields, ?_⟩
      rw [Value.ofFields, List.map_cons, same, ← isText]

/-- Whether a path item without a collection of its operations is accepted depends on what stands
under methods. -/
theorem accepted_of_absent (textual : Entries.Textual entries)
    (absent : .text "operations" ∉ entries.map Prod.fst) :
    (∃ item, checkPathItem (.mapping entries) = .ok item) ↔
      ∃ operations : List (Method × Option Operation),
        List.Forall₂ (fun entry operation => entry.1 = .text operation.1.name ∧
            optional checkOperation entry.2 = .ok operation.2)
          (entries.filter fun entry => isMethodKey entry.1) operations := by
  simp only [checkPathItem_of_absent textual absent]
  constructor
  · rintro ⟨item, given⟩
    exact ⟨item.operations, given.operations⟩
  · rintro ⟨operations, checked⟩
    obtain ⟨extras, same⟩ := exists_fields (entries.filter fun entry => !isMethodKey entry.1)
      (textual.filter _).texts
    exact ⟨⟨operations, extras⟩, checked, same⟩

/-- Whether a path item with a collection of its operations is accepted depends on this. -/
theorem accepted_of_own (textual : Entries.Textual entries) {own : Value}
    (found : Entries.get? entries (.text "operations") = some own) :
    (∃ item, checkPathItem (.mapping entries) = .ok item) ↔
      ∃ operations, mapping (choice Method.names) (optional checkOperation) own =
        .ok operations := by
  simp only [checkPathItem_of_own found]
  constructor
  · rintro ⟨item, checked, _⟩
    exact ⟨item.operations, checked⟩
  · rintro ⟨operations, checked⟩
    obtain ⟨extras, same⟩ :=
      exists_fields (entries.filter fun entry => entry.1 != .text "operations")
        (textual.filter _).texts
    exact ⟨⟨operations, extras⟩, checked, same⟩

/-- Setting a key leaves the entries under other keys alone. -/
theorem filter_put (keep : Scalar → Bool) (drops : keep (.text name) = false) (value : Value) :
    (Entries.put entries (.text name) value).filter (keep ·.1) = entries.filter (keep ·.1) := by
  induction entries with
  | nil => simp [Entries.put, drops]
  | cons entry rest ih =>
      rw [Entries.put]
      split
      next same =>
        rw [Scalar.same_text] at same
        simp [same, drops]
      next => rw [List.filter_cons, List.filter_cons, ih]

theorem accepted_put (textual : Entries.Textual entries) {value : Value}
    (absent : .text "operations" ∉ entries.map Prod.fst)
    (present : .text name ∈ entries.map Prod.fst) (other : isMethodKey (.text name) = false) :
    (∃ item, checkPathItem (.mapping (Entries.put entries (.text name) value)) = .ok item) ↔
      ∃ item, checkPathItem (.mapping entries) = .ok item := by
  have keys : (Entries.put entries (.text name) value).map Prod.fst = entries.map Prod.fst := by
    rw [Entries.keys_put (Scalar.same_text · _), if_pos present]
  rw [accepted_of_absent (textual.put name value) (keys ▸ absent),
    accepted_of_absent textual absent, filter_put isMethodKey other]

theorem accepted_put_of_own (textual : Entries.Textual entries) {own value : Value}
    (found : Entries.get? entries (.text "operations") = some own) (other : name ≠ "operations") :
    (∃ item, checkPathItem (.mapping (Entries.put entries (.text name) value)) = .ok item) ↔
      ∃ item, checkPathItem (.mapping entries) = .ok item := by
  have same : Entries.get? (Entries.put entries (.text name) value) (.text "operations") =
      some own := by
    rw [Entries.get?_put_of_ne (by simpa using other), found]
  rw [accepted_of_own (textual.put name value) same, accepted_of_own textual found]

/-- Where a path item has a key `operations`, it is never so that its methods are its operations and
its other keys its extras. -/
theorem not_of_own {own : Value}
    (found : Entries.get? entries (.text "operations") = some own)
    (accepted : checkPathItem (.mapping entries) = .ok item) :
    ¬item.Of (entries.filter fun entry => isMethodKey entry.1)
      (entries.filter fun entry => !isMethodKey entry.1) := by
  intro collected
  have extras := ((checkPathItem_of_own found).1 accepted).2.symm.trans collected.extras
  have kept : (.text "operations", own) ∈ entries.filter fun entry => !isMethodKey entry.1 :=
    List.mem_filter.2 ⟨Entries.mem_of_get? found, rfl⟩
  rw [← Value.mapping.inj extras, List.mem_filter] at kept
  simp at kept

/-- Where a path item has no key `operations`, the entries that stand under methods are its
operations, and all other keys are kept as extras, both in their order; what stands under the other
keys has no influence on whether it is accepted. An accepted path item that has such a key is never
of this kind: what stands under the key takes the place of the methods. These become extras like the
other keys, the key itself is lost, and only the value under it has an influence. -/
theorem checkPathItem_collected (textual : Entries.Textual entries) :
    (.text "operations" ∉ entries.map Prod.fst →
      (∀ item, checkPathItem (.mapping entries) = .ok item ↔
        item.Of (entries.filter fun entry => isMethodKey entry.1)
          (entries.filter fun entry => !isMethodKey entry.1)) ∧
      ∀ name value, .text name ∈ entries.map Prod.fst →
        (∀ method, name ≠ Method.name method) →
        ((∃ item, checkPathItem (.mapping (Entries.put entries (.text name) value)) = .ok item) ↔
          ∃ item, checkPathItem (.mapping entries) = .ok item)) ∧
    (∀ item, checkPathItem (.mapping entries) = .ok item →
      (item.Of (entries.filter fun entry => isMethodKey entry.1)
          (entries.filter fun entry => !isMethodKey entry.1) ↔
        .text "operations" ∉ entries.map Prod.fst)) ∧
    ∀ own, (.text "operations", own) ∈ entries →
      (∀ item, checkPathItem (.mapping entries) = .ok item ↔
        mapping (choice Method.names) (optional checkOperation) own = .ok item.operations ∧
          Value.ofFields item.extras = .mapping
            (entries.filter fun entry => entry.1 != .text "operations")) ∧
      ∀ name value, .text name ∈ entries.map Prod.fst → name ≠ "operations" →
        ((∃ item, checkPathItem (.mapping (Entries.put entries (.text name) value)) = .ok item) ↔
          ∃ item, checkPathItem (.mapping entries) = .ok item) := by
  refine ⟨?_, ?_, ?_⟩
  · intro absent
    refine ⟨fun item => checkPathItem_of_absent textual absent, ?_⟩
    intro name value present other
    refine accepted_put textual absent present ?_
    rw [Bool.eq_false_iff, Ne, isMethodKey_iff]
    rintro ⟨method, same⟩
    exact other method (Scalar.text.inj same)
  · intro item accepted
    constructor
    · intro collected present
      obtain ⟨⟨key, own⟩, member, rfl⟩ := List.mem_map.1 present
      have found := Entries.get?_of_mem textual.distinct member
      exact not_of_own found accepted collected
    · exact fun absent => (checkPathItem_of_absent textual absent).1 accepted
  · intro own member
    have found := Entries.get?_of_mem textual.distinct member
    exact ⟨fun item => checkPathItem_of_own found,
      fun name value _ other => accepted_put_of_own textual found other⟩

/-- The entries of a path item with two methods. -/
def twoMethods : Entries :=
  [(.text "summary", .text "Toys"), (.text "get", .mapping []), (.text "parameters", .int 3),
   (.text "delete", .null)]

/-- A path item with two methods has their operations in their order, and it keeps them whatever its
summary is. -/
theorem checkPathItem_collected_twoMethods :
    (∃ item, checkPathItem (.mapping twoMethods) = .ok item ∧
      item.operations.map Prod.fst = [.get, .delete] ∧
      item.extras = [("summary", .text "Toys"), ("parameters", .int 3)]) ∧
    ∃ item, checkPathItem (.mapping (Entries.put twoMethods (.text "summary") (.list []))) =
      .ok item := by
  have textual : Entries.Textual twoMethods := ⟨by simp [twoMethods], by decide⟩
  have absent : .text "operations" ∉ twoMethods.map Prod.fst := by decide
  have summary : ∀ method, "summary" ≠ Method.name method := by
    intro method
    cases method <;> decide
  have accepted : checkPathItem (.mapping twoMethods) =
      .ok ⟨[(.get, some ⟨none, [], none, none, []⟩), (.delete, none)],
        [("summary", .text "Toys"), ("parameters", .int 3)]⟩ := by cbv
  have collected := (checkPathItem_collected textual).1 absent
  refine ⟨⟨_, accepted, rfl, rfl⟩, ?_⟩
  exact (collected.2 "summary" (.list []) (by decide) summary).2 ⟨_, accepted⟩

/-- The entries of a path item with a method and a collection of its operations without any. -/
def ownCollection (collection : Value) : Entries :=
  [(.text "operations", collection), (.text "get", .mapping [])]

/-- A key that names no method changes what the operations of a path item are, and whether it is
accepted: with the key `operations`, the method `get` beside it is lost. -/
theorem own_collection_counts :
    Entries.Textual (ownCollection (.mapping [])) ∧
      (∃ item, checkPathItem (.mapping (ownCollection (.mapping []))) = .ok item ∧
        ¬item.Of ((ownCollection (.mapping [])).filter fun entry => isMethodKey entry.1)
          ((ownCollection (.mapping [])).filter fun entry => !isMethodKey entry.1)) ∧
      isMethodKey (.text "operations") = false ∧
      ¬∃ item, checkPathItem (.mapping (Entries.put (ownCollection (.mapping []))
        (.text "operations") .null)) = .ok item := by
  have accepted : checkPathItem (.mapping (ownCollection (.mapping []))) =
      .ok ⟨[], [("get", .mapping [])]⟩ := by cbv
  refine ⟨⟨by simp [ownCollection], by decide⟩, ⟨_, accepted, ?_⟩, by decide, ?_⟩
  · intro collected
    have none : List.Forall₂ _ [(Scalar.text "get", Value.mapping [])] [] := collected.operations
    cases none
  · rintro ⟨item, impossible⟩
    have refused : checkPathItem (.mapping (Entries.put (ownCollection (.mapping []))
        (.text "operations") .null)) = .error [⟨[.name "operations"], .mapping⟩] := by cbv
    cases refused.symm.trans impossible

end RouteTypes.Contract
