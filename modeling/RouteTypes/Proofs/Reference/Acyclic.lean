import Mathlib
import RouteTypes.Proofs.Reference.Branch
import RouteTypes.Proofs.Reference.Cache

/-!
# Documents without circles

The references of a document and of those that it refers to form a graph: its nodes are marks, and
an edge leads from the mark of a value to the marks of the references that stand in the value.
Where this graph has no circle, no reference is ever met while it is being followed. So the
history of a resolution does not matter (`resolve_history`), and resolving a document replaces all
references that are reached through mappings and lists (`dereference_acyclic`).

Tuples are not searched for references. A reference inside of one stays, whatever the graph looks
like (`tuple_keeps_reference`).
-/

namespace RouteTypes.Reference

open Value

/-! ## The graph of references -/

variable {ε : Type} {fetch : String → Except ε Value} {root scope target : Scope}
variable {value result : Value} {reference : String} {seen : List String} {depth : Nat}

/-- A mark stands for a value of a document. -/
def Designates (fetch : String → Except ε Value) (root : Scope) (key : String) (scope : Scope)
    (value : Value) : Prop :=
  Known fetch root scope ∧
    ∃ pointer, key = mark scope.location pointer ∧ Pointer.resolve scope.root pointer = .ok value

/-- An edge leads from a mark to every reference that stands in its value. -/
def Edge (fetch : String → Except ε Value) (root : Scope) (key next : String) : Prop :=
  ∃ scope value reference, Designates fetch root key scope value ∧ DeepRefers value reference ∧
    Targets fetch scope reference next

/-- No mark can be reached from itself. -/
def Acyclic (fetch : String → Except ε Value) (root : Scope) : Prop :=
  ∀ key, ¬Relation.TransGen (Edge fetch root) key key

theorem mark_injective {location : Option String} {first second : String}
    (same : mark location first = mark location second) : first = second :=
  String.append_right_inj _ |>.1 same

/-- Where all references of a document have the same target in it, without references there, there
is no circle. -/
theorem acyclic_of_single {document : Value} {location : Option String} (final : Value)
    (pointer : String)
    (single : ∀ reference, DeepRefers document reference → split reference = ("", pointer))
    (selected : Pointer.resolve document pointer = .ok final)
    (plain : ∀ reference, ¬DeepRefers final reference) :
    Acyclic fetch ⟨document, location⟩ := by
  have internal (reference : String) (refers : Refers document reference) :
      (split reference).1 = "" := by
    rw [single reference refers.deep]
  have into {key next : String} (edge : Edge fetch ⟨document, location⟩ key next) :
      next = mark location pointer ∧ key ≠ mark location pointer := by
    obtain ⟨scope, value, reference, ⟨known, here, rfl, found⟩, refers, target, entered, rfl⟩ :=
      edge
    cases known_of_internal internal known
    have deeper : DeepRefers document reference := by
      obtain ⟨entries, part, referring⟩ := refers
      exact ⟨entries, part.trans (Pointer.part_of_resolve found).deep, referring⟩
    rw [single reference deeper] at entered ⊢
    cases entered
    refine ⟨rfl, fun same => ?_⟩
    cases mark_injective same
    cases selected.symm.trans found
    exact plain reference refers
  intro key loop
  obtain ⟨_, leaving, _⟩ := Relation.TransGen.head'_iff.1 loop
  obtain ⟨_, _, entering⟩ := Relation.TransGen.tail'_iff.1 loop
  exact (into leaving).2 (into entering).1

/-! ## The history does not matter -/

/-- Everything in the history leads to the references of a value. -/
def Above (fetch : String → Except ε Value) (root scope : Scope) (seen : List String)
    (value : Value) : Prop :=
  ∀ key ∈ seen, ∀ reference next, Refers value reference → Targets fetch scope reference next →
    Relation.TransGen (Edge fetch root) key next

theorem Above.nil : Above fetch root scope [] value := by
  intro key member
  cases member

/-- In the value of a mark, the mark and what led to it lead to the references. -/
theorem Above.follow {referring : Value} (stands : Stands fetch root target value)
    (above : Above fetch root scope seen referring) (refers : Refers referring reference)
    (entered : enter (direct fetch) scope (split reference).1 = Except.ok target)
    (selected : Pointer.resolve target.root (split reference).2 = .ok value) :
    Above fetch root target (mark target.location (split reference).2 :: seen) value := by
  intro key member inner next innerRefers leads
  have edge : Edge fetch root (mark target.location (split reference).2) next :=
    ⟨target, value, inner, ⟨stands.known, _, rfl, selected⟩, innerRefers.deep, leads⟩
  rcases List.mem_cons.1 member with rfl | older
  · exact .single edge
  · exact (above key older reference _ refers ⟨target, entered, rfl⟩).tail edge

/-- A reference below its history has not been met before. -/
theorem Above.fresh (acyclic : Acyclic fetch root) (above : Above fetch root scope seen value)
    (refers : Refers value reference)
    (entered : enter (direct fetch) scope (split reference).1 = Except.ok target) :
    mark target.location (split reference).2 ∉ seen := by
  intro repeated
  exact acyclic _ (above _ repeated reference _ refers ⟨target, entered, rfl⟩)

theorem Above.ofItem {item : Value} {items : List Value} (member : item ∈ items)
    (above : Above fetch root scope seen (.list items)) : Above fetch root scope seen item :=
  fun key old reference next refers => above key old reference next (.ofItem member refers)

theorem Above.ofEntry {entry : Scalar × Value} {entries : Entries} (member : entry ∈ entries)
    (above : Above fetch root scope seen (.mapping entries)) :
    Above fetch root scope seen entry.2 :=
  fun key old reference next refers => above key old reference next (.ofEntry member refers)

/-- Without circles the history of a resolution does not matter. -/
theorem Resolves.history (acyclic : Acyclic fetch root) (stands : Stands fetch root scope value)
    (derivation : Resolves (direct fetch) depth scope seen value result)
    (above : Above fetch root scope seen value) {other : List String}
    (otherAbove : Above fetch root scope other value) :
    Resolves (direct fetch) depth scope other value result := by
  induction derivation generalizing other with
  | scalar value => exact .scalar value
  | tuple items => exact .tuple items
  | set items => exact .set items
  | list length _ ih =>
      refine .list length fun index left right => ?_
      have member := List.getElem_mem left
      exact ih index left right (stands.ofItem member) (above.ofItem member)
        (otherAbove.ofItem member)
  | mapping plain keys _ ih =>
      refine .mapping plain keys fun index left right => ?_
      have member := List.getElem_mem left
      exact ih index left right (stands.ofEntry member) (above.ofEntry member)
        (otherAbove.ofEntry member)
  | left found entered repeated =>
      exact absurd repeated (above.fresh acyclic (.here found) entered)
  | other found entered _ selected _ noMapping ih =>
      have fresh := otherAbove.fresh acyclic (.here found) entered
      have below := stands.follow (.here found) entered selected
      have inner := ih below (above.follow below (.here found) entered selected)
        (otherAbove.follow below (.here found) entered selected)
      exact .other found entered fresh selected inner noMapping
  | laid found entered _ selected _ keys _ ih besideIH =>
      have fresh := otherAbove.fresh acyclic (.here found) entered
      have below := stands.follow (.here found) entered selected
      have inner := ih below (above.follow below (.here found) entered selected)
        (otherAbove.follow below (.here found) entered selected)
      refine .laid found entered fresh selected inner keys fun index left right => ?_
      have member := (mem_siblings.1 (List.getElem_mem left)).1
      exact besideIH index left right (stands.ofEntry member) (above.ofEntry member)
        (otherAbove.ofEntry member)

/-! ## What comes out -/

theorem exists_getElem_of_keys {left right : Entries}
    (keys : left.map Prod.fst = right.map Prod.fst) {entry : Scalar × Value}
    (member : entry ∈ right) :
    ∃ (index : Nat) (_ : index < left.length) (inRight : index < right.length),
      right[index] = entry := by
  have length : left.length = right.length := by simpa using congrArg List.length keys
  obtain ⟨index, inRight, found⟩ := List.getElem_of_mem member
  exact ⟨index, length ▸ inRight, inRight, found⟩

/-- The entries of a mapping are plain where its values are and it refers to nothing itself. -/
theorem not_refers_mapping {entries : Entries} (plain : reference? entries = none)
    (values : ∀ entry ∈ entries, ∀ reference, ¬Refers entry.2 reference) :
    ∀ reference, ¬Refers (.mapping entries) reference := by
  intro reference refers
  rcases refers with ⟨inner, inside, found⟩
  cases inside with
  | whole => cases plain.symm.trans found
  | entry member inside => exact values _ member reference ⟨inner, inside, found⟩

/-- Nothing in the result of a resolution refers to anything. -/
theorem plain_of_resolves (acyclic : Acyclic fetch root)
    (unnested : ∀ scope, Known fetch root scope → Unnested scope.root)
    (stands : Stands fetch root scope value)
    (derivation : Resolves (direct fetch) depth scope seen value result)
    (above : Above fetch root scope seen value) : ∀ reference, ¬Refers result reference := by
  induction derivation with
  | scalar | tuple | set =>
      intro reference refers
      rcases refers with ⟨entries, inside, found⟩
      cases inside
  | list length _ ih =>
      intro reference refers
      rcases refers with ⟨entries, inside, found⟩
      cases inside with
      | item member inside =>
          obtain ⟨index, right, rfl⟩ := List.getElem_of_mem member
          have left := length ▸ right
          have member := List.getElem_mem left
          exact ih index left right (stands.ofItem member) (above.ofItem member) reference
            ⟨entries, inside, found⟩
  | mapping plain keys values ih =>
      refine not_refers_mapping ?_ ?_
      · exact reference?_of_resolves plain (fun held => unnested _ stands.known _ held stands.part)
          (onValues_iff_getElem.2 ⟨keys, values⟩)
      · intro entry member
        obtain ⟨index, left, right, rfl⟩ := exists_getElem_of_keys keys member
        have member := List.getElem_mem left
        exact ih index left right (stands.ofEntry member) (above.ofEntry member)
  | left found entered repeated =>
      exact absurd repeated (above.fresh acyclic (.here found) entered)
  | other found entered _ selected _ _ ih =>
      have below := stands.follow (.here found) entered selected
      exact ih below (above.follow below (.here found) entered selected)
  | laid found entered _ selected _ keys _ ih besideIH =>
      have below := stands.follow (.here found) entered selected
      have base := ih below (above.follow below (.here found) entered selected)
      refine not_refers_mapping ?_ ?_
      · rw [reference?_putAll (beside_of_keys keys), Option.eq_none_iff_forall_ne_some]
        exact fun reference referring => base reference (.here referring)
      · refine @Entries.forall_putAll _ _ _ (fun value => ∀ reference, ¬Refers value reference)
          ?_ ?_
        · exact fun entry member reference refers => base reference (.ofEntry member refers)
        intro entry member
        obtain ⟨index, left, right, rfl⟩ := exists_getElem_of_keys keys member
        have member := (mem_siblings.1 (List.getElem_mem left)).1
        exact besideIH index left right (stands.ofEntry member) (above.ofEntry member)

/-- A value in which every reference is replaced, at any depth below mappings and lists: by what
comes out of resolving its target with an empty history, over which the siblings are laid where
that is a mapping. References with the same target are replaced by the same value, as the history
of neither of them enters. -/
inductive Rewritten (fetch : String → Except ε Value) (depth : Nat) :
    Scope → Value → Value → Prop where
  | scalar {scope : Scope} (value : Scalar) :
      Rewritten fetch depth scope (.scalar value) (.scalar value)
  | tuple {scope : Scope} (items : List Value) :
      Rewritten fetch depth scope (.tuple items) (.tuple items)
  | set {scope : Scope} (items : List Scalar) :
      Rewritten fetch depth scope (.set items) (.set items)
  | list {scope : Scope} {items results : List Value} (length : items.length = results.length)
      (parts : ∀ (index : Nat) (left : index < items.length) (right : index < results.length),
        Rewritten fetch depth scope items[index] results[index]) :
      Rewritten fetch depth scope (.list items) (.list results)
  | mapping {scope : Scope} {entries results : Entries} (plain : reference? entries = none)
      (keys : entries.map Prod.fst = results.map Prod.fst)
      (values : ∀ (index : Nat) (left : index < entries.length) (right : index < results.length),
        Rewritten fetch depth scope entries[index].2 results[index].2) :
      Rewritten fetch depth scope (.mapping entries) (.mapping results)
  | other {scope target : Scope} {entries : Entries} {reference : String} {value result : Value}
      (found : reference? entries = some reference)
      (entered : enter (direct fetch) scope (split reference).1 = Except.ok target)
      (selected : Pointer.resolve target.root (split reference).2 = .ok value)
      (resolved : resolve (direct fetch) depth target [] value = Except.ok result)
      (inner : Rewritten fetch depth target value result)
      (noMapping : ∀ entries, result ≠ .mapping entries) :
      Rewritten fetch depth scope (.mapping entries) result
  | laid {scope target : Scope} {entries base extra : Entries} {reference : String}
      {value : Value} (found : reference? entries = some reference)
      (entered : enter (direct fetch) scope (split reference).1 = Except.ok target)
      (selected : Pointer.resolve target.root (split reference).2 = .ok value)
      (resolved : resolve (direct fetch) depth target [] value = Except.ok (.mapping base))
      (inner : Rewritten fetch depth target value (.mapping base))
      (keys : (siblings entries).map Prod.fst = extra.map Prod.fst)
      (beside : ∀ (index : Nat) (left : index < (siblings entries).length)
        (right : index < extra.length),
        Rewritten fetch depth scope (siblings entries)[index].2 extra[index].2) :
      Rewritten fetch depth scope (.mapping entries) (.mapping (Entries.putAll base extra))

/-- Entries with the keys of the same mapping are equal where their values are. -/
theorem entries_ext_of_keys {source left right : Entries}
    (leftKeys : source.map Prod.fst = left.map Prod.fst)
    (rightKeys : source.map Prod.fst = right.map Prod.fst)
    (values : ∀ (index : Nat) (_ : index < source.length) (inLeft : index < left.length)
      (inRight : index < right.length), left[index].2 = right[index].2) : left = right := by
  have keys := leftKeys.symm.trans rightKeys
  have sourceLength : source.length = left.length := by simpa using congrArg List.length leftKeys
  have length : left.length = right.length := by simpa using congrArg List.length keys
  refine List.ext_getElem length fun index inLeft inRight => ?_
  have key := List.getElem_of_eq keys (by simpa using inLeft)
  exact Prod.ext (by simpa using key) (values index (sourceLength ▸ inLeft) inLeft inRight)

/-- Where a reference is resolved twice, it leads to the same value and becomes the same. -/
theorem target_unique {first second : Value} {firstResult secondResult : Value}
    {firstTarget secondTarget : Scope} {firstReference secondReference : String}
    {entries : Entries} (firstFound : reference? entries = some firstReference)
    (firstEntered : enter (direct fetch) scope (split firstReference).1 = Except.ok firstTarget)
    (firstSelected : Pointer.resolve firstTarget.root (split firstReference).2 = .ok first)
    (firstResolved : resolve (direct fetch) depth firstTarget [] first = Except.ok firstResult)
    (secondFound : reference? entries = some secondReference)
    (secondEntered : enter (direct fetch) scope (split secondReference).1 = Except.ok secondTarget)
    (secondSelected : Pointer.resolve secondTarget.root (split secondReference).2 = .ok second)
    (secondResolved : resolve (direct fetch) depth secondTarget [] second =
      Except.ok secondResult) : firstResult = secondResult := by
  cases firstFound.symm.trans secondFound
  cases firstEntered.symm.trans secondEntered
  cases firstSelected.symm.trans secondSelected
  cases firstResolved.symm.trans secondResolved
  rfl

/-- There is one way to replace the references of a value. -/
theorem Rewritten.unique (first : Rewritten fetch depth scope value result) {other : Value}
    (second : Rewritten fetch depth scope value other) : result = other := by
  induction first generalizing other with
  | scalar | tuple | set =>
      cases second
      rfl
  | list length _ ih =>
      cases second with
      | list otherLength parts =>
          refine congrArg _ (List.ext_getElem (length.symm.trans otherLength) ?_)
          intro index inLeft inRight
          exact ih index (length ▸ inLeft) inLeft (parts index (length ▸ inLeft) inRight)
  | mapping plain keys _ ih =>
      cases second with
      | mapping _ otherKeys values =>
          refine congrArg _ (entries_ext_of_keys keys otherKeys ?_)
          intro index inside inLeft inRight
          exact ih index inside inLeft (values index inside inRight)
      | other found | laid found => cases plain.symm.trans found
  | other found entered selected resolved _ noMapping =>
      cases second with
      | mapping plain => cases plain.symm.trans found
      | other otherFound otherEntered otherSelected otherResolved =>
          exact target_unique found entered selected resolved otherFound otherEntered
            otherSelected otherResolved
      | laid otherFound otherEntered otherSelected otherResolved =>
          have same := target_unique found entered selected resolved otherFound otherEntered
            otherSelected otherResolved
          exact absurd same (noMapping _)
  | laid found entered selected resolved _ keys _ _ besideIH =>
      cases second with
      | mapping plain => cases plain.symm.trans found
      | other otherFound otherEntered otherSelected otherResolved _ noMapping =>
          have same := target_unique found entered selected resolved otherFound otherEntered
            otherSelected otherResolved
          exact absurd same.symm (noMapping _)
      | laid otherFound otherEntered otherSelected otherResolved _ otherKeys beside =>
          have same := target_unique found entered selected resolved otherFound otherEntered
            otherSelected otherResolved
          cases same
          refine congrArg _ (congrArg _ (entries_ext_of_keys keys otherKeys ?_))
          intro index inside inLeft inRight
          exact besideIH index inside inLeft (beside index inside inRight)

/-- Without circles, every reference is replaced. -/
theorem rewritten_of_resolves {limit : Nat} (acyclic : Acyclic fetch root)
    (stands : Stands fetch root scope value)
    (derivation : Resolves (direct fetch) depth scope seen value result)
    (above : Above fetch root scope seen value) (le : depth ≤ limit) :
    Rewritten fetch limit scope value result := by
  induction derivation with
  | scalar value => exact .scalar value
  | tuple items => exact .tuple items
  | set items => exact .set items
  | list length _ ih =>
      refine .list length fun index left right => ?_
      have member := List.getElem_mem left
      exact ih index left right (stands.ofItem member) (above.ofItem member) le
  | mapping plain keys _ ih =>
      refine .mapping plain keys fun index left right => ?_
      have member := List.getElem_mem left
      exact ih index left right (stands.ofEntry member) (above.ofEntry member) le
  | left found entered repeated =>
      exact absurd repeated (above.fresh acyclic (.here found) entered)
  | other found entered _ selected inner noMapping ih =>
      have below := stands.follow (.here found) entered selected
      have aboveBelow := above.follow below (.here found) entered selected
      have shallower := Nat.le_of_succ_le le
      have resolved := (inner.history acyclic below aboveBelow .nil).mono shallower
      exact .other found entered selected resolved.resolve_eq (ih below aboveBelow shallower)
        noMapping
  | laid found entered _ selected inner keys _ ih besideIH =>
      have below := stands.follow (.here found) entered selected
      have aboveBelow := above.follow below (.here found) entered selected
      have shallower := Nat.le_of_succ_le le
      have resolved := (inner.history acyclic below aboveBelow .nil).mono shallower
      refine .laid found entered selected resolved.resolve_eq (ih below aboveBelow shallower) keys
        fun index left right => ?_
      have member := (mem_siblings.1 (List.getElem_mem left)).1
      exact besideIH index left right (stands.ofEntry member) (above.ofEntry member) le

/-- A document without references comes out as it is, and nothing is loaded. -/
theorem dereference_of_plain (fetch : String → Except ε Value) (depth : Nat) (document : Value)
    (location : Option String) (plain : ∀ reference, ¬Refers document reference) :
    dereference fetch depth document location = ⟨.ok document, []⟩ := by
  rw [dereference, resolve, resolveTree_of_plain _ document plain]
  rfl

/-- Resolving a document whose references run in no circle leaves no reference behind in mappings
and lists: every one of them is replaced, and resolving the result again changes nothing and loads
nothing, wherever it is taken to stand. -/
theorem dereference_acyclic {document : Value} {location : Option String}
    (acyclic : Acyclic fetch ⟨document, location⟩)
    (unnested : ∀ scope, Known fetch ⟨document, location⟩ scope → Unnested scope.root)
    (success : (dereference fetch depth document location).result = .ok result) :
    (∀ entries, Part (.mapping entries) result → reference? entries = none) ∧
      (∀ other, Rewritten fetch depth ⟨document, location⟩ document other ↔ result = other) ∧
      ∀ depth location, dereference fetch depth result location = ⟨.ok result, []⟩ := by
  rw [dereference_result, resolve_eq_ok] at success
  have plain := plain_of_resolves acyclic unnested .start success .nil
  refine ⟨?_, ?_, ?_⟩
  · intro entries part
    rw [Option.eq_none_iff_forall_ne_some]
    exact fun reference found => plain reference ⟨entries, part, found⟩
  · have rewritten := rewritten_of_resolves acyclic .start success .nil (Nat.le_refl depth)
    intro other
    constructor
    · exact rewritten.unique
    · intro equal
      subst equal
      exact rewritten
  · exact fun depth location => dereference_of_plain fetch depth result location plain

/-- A document with two references to one value, one of them with a sibling. -/
def shared : Value :=
  .mapping [(.text "first", .mapping [(.text "$ref", .text "#/base"), (.text "note", .int 1)]),
    (.text "second", .list [.mapping [(.text "$ref", .text "#/base")]]),
    (.text "base", .mapping [(.text "size", .int 2)])]

/-- What comes out of resolving `shared`. -/
def sharedResolved : Value :=
  .mapping [(.text "first", .mapping [(.text "size", .int 2), (.text "note", .int 1)]),
    (.text "second", .list [.mapping [(.text "size", .int 2)]]),
    (.text "base", .mapping [(.text "size", .int 2)])]

/-- Nothing in `sharedResolved` refers to anything, and resolving it again loads nothing. -/
theorem dereference_acyclic_shared :
    (dereference (fun _ => Except.error ()) 2 shared none).result = .ok sharedResolved ∧
      (∀ entries, Part (.mapping entries) sharedResolved → reference? entries = none) ∧
      dereference (fun _ => Except.error ()) 0 sharedResolved (some "other") =
        ⟨.ok sharedResolved, []⟩ := by
  have success :
      (dereference (fun _ => Except.error ()) 2 shared none).result = .ok sharedResolved := by cbv
  have acyclic : Acyclic (fun _ => Except.error ()) ⟨shared, none⟩ := by
    refine acyclic_of_single (.mapping [(.text "size", .int 2)]) "/base" ?_ (by rfl) ?_
    · intro reference refers
      simp [shared, reference?, Entries.get?_cons, referenceKey] at refers
      subst refers
      decide
    · simp [reference?, Entries.get?_cons, referenceKey]
  have unnested : ∀ scope, Known (fun _ => Except.error ()) ⟨shared, none⟩ scope →
      Unnested scope.root := by
    intro scope known entries held part found
    cases known_of_fails known
    simp [shared] at part
    rcases part with rfl | rfl | rfl | rfl <;> cases found <;> rfl
  obtain ⟨plain, _, again⟩ := dereference_acyclic acyclic unnested success
  exact ⟨success, plain, again 0 (some "other")⟩

/-- A document with a reference inside of a tuple. -/
def paired : Value :=
  .mapping [(.text "pairs", .list [.tuple [.text "x", .mapping [(.text "$ref", .text "#/base")]]]),
    (.text "base", .int 1)]

/-- A reference inside of a tuple is not replaced, though there is no circle: `paired` comes out
as it is. -/
theorem tuple_keeps_reference :
    Acyclic (fun _ => Except.error ()) ⟨paired, none⟩ ∧
      (∀ scope, Known (fun _ => Except.error ()) ⟨paired, none⟩ scope → Unnested scope.root) ∧
      (dereference (fun _ => Except.error ()) 2 paired none).result = .ok paired ∧
      DeepRefers paired "#/base" := by
  have references (reference : String) : DeepRefers paired reference ↔ reference = "#/base" := by
    simp [paired, reference?, Entries.get?_cons, referenceKey]
    exact eq_comm
  refine ⟨?_, ?_, by cbv, (references _).2 rfl⟩
  · refine acyclic_of_single (.int 1) "/base" ?_ (by rfl) (by simp)
    intro reference refers
    rw [(references reference).1 refers]
    decide
  · intro scope known entries held part found
    cases known_of_fails known
    simp [paired] at part
    subst part
    cases found

end RouteTypes.Reference
