import Mathlib
import RouteTypes.Proofs.Reference.Acyclic

/-!
# Documents that refer to themselves by their location

A document that is stored somewhere may refer to its own values in two ways: with a pointer alone,
or with a location in front of it that leads from the document to itself. The second way loads a
copy of the document, and the references of the copy are followed there. Where the references of a
document run in no circle, it does not matter which of them are written in which way
(`dereference_relocated`).

A document and one with relocated references are resolved side by side. Both runs are at the same
location and remember the same marks at any time. Their documents may differ, as the second run
goes back and forth between the relocated document and the copy, but both of these are relocations
of the first document, so the values that the runs have reached are related (`Relocated.select`).
-/

namespace RouteTypes.Reference

open Value

variable {ε : Type} {fetch : String → Except ε Value} {location reference moved : String}
variable {document spread value other : Value}

/-! ## Relocated references -/

/-- Ways to write a reference of the document at `location`: as it is, or with another location in
front of its pointer, one that leads from the document to itself. -/
inductive Relocates (location reference : String) : String → Prop where
  | kept : Relocates location reference reference
  | moved {moved : String} (pointer : (split moved).2 = (split reference).2)
      (leads : Location.join (some location) (split moved).1 = .ok location) :
      Relocates location reference moved

theorem split_append {place : String} (plain : '#' ∉ place.toList) (pointer : String) :
    split (place ++ "#" ++ pointer) = (place, pointer) := by
  have differs : ∀ c ∈ place.toList, (c != '#') = true := by
    intro c member
    rw [bne_iff_ne]
    exact ne_of_mem_of_not_mem member plain
  have before : List.takeWhile (· != '#') (place.toList ++ '#' :: pointer.toList) =
      place.toList := by
    simp [List.takeWhile_append_of_pos differs]
  have after : List.dropWhile (· != '#') (place.toList ++ '#' :: pointer.toList) =
      '#' :: pointer.toList := by
    simp [List.dropWhile_append_of_pos differs]
  simp [split, Text.cut, before, after]

/-- A location that leads from the document to itself may be put in front of a pointer. -/
theorem Relocates.inFront {place : String} (plain : '#' ∉ place.toList)
    (leads : Location.join (some location) place = .ok location) (pointer : String) :
    Relocates location ("#" ++ pointer) (place ++ "#" ++ pointer) := by
  have bare : split ("#" ++ pointer) = ("", pointer) := by
    simpa using @split_append "" (by simp) pointer
  refine .moved ?_ ?_
  · rw [split_append plain, bare]
  · rwa [split_append plain]

theorem Relocates.pointer_eq (relocates : Relocates location reference moved) :
    (split moved).2 = (split reference).2 := by
  cases relocates with
  | kept => rfl
  | moved pointer => exact pointer

/-- The second value is the first one with some references relocated, which are reached through
mappings and lists. -/
inductive Relocated (location : String) : Value → Value → Prop where
  | scalar (value : Scalar) : Relocated location (.scalar value) (.scalar value)
  | tuple (items : List Value) : Relocated location (.tuple items) (.tuple items)
  | set (items : List Scalar) : Relocated location (.set items) (.set items)
  | list {items others : List Value} (length : items.length = others.length)
      (parts : ∀ (index : Nat) (left : index < items.length) (right : index < others.length),
        Relocated location items[index] others[index]) :
      Relocated location (.list items) (.list others)
  | mapping {entries others : Entries} (plain : reference? entries = none)
      (keys : entries.map Prod.fst = others.map Prod.fst)
      (values : ∀ (index : Nat) (left : index < entries.length) (right : index < others.length),
        Relocated location entries[index].2 others[index].2) :
      Relocated location (.mapping entries) (.mapping others)
  | reference {entries others : Entries} {reference moved : String}
      (found : reference? entries = some reference) (replaced : reference? others = some moved)
      (relocates : Relocates location reference moved)
      (keys : (siblings entries).map Prod.fst = (siblings others).map Prod.fst)
      (beside : ∀ (index : Nat) (left : index < (siblings entries).length)
        (right : index < (siblings others).length),
        Relocated location (siblings entries)[index].2 (siblings others)[index].2) :
      Relocated location (.mapping entries) (.mapping others)

theorem Relocated.ofEntries {entries others : Entries} (plain : reference? entries = none)
    (parts : List.Forall₂ (OnValues (Relocated location)) entries others) :
    Relocated location (.mapping entries) (.mapping others) :=
  .mapping plain (onValues_iff_getElem.1 parts).1 (onValues_iff_getElem.1 parts).2

theorem Relocated.ofSiblings {entries others : Entries}
    (found : reference? entries = some reference) (replaced : reference? others = some moved)
    (relocates : Relocates location reference moved)
    (parts : List.Forall₂ (OnValues (Relocated location)) (siblings entries) (siblings others)) :
    Relocated location (.mapping entries) (.mapping others) :=
  .reference found replaced relocates (onValues_iff_getElem.1 parts).1
    (onValues_iff_getElem.1 parts).2

/-- No reference has to be relocated. -/
theorem Relocated.refl (location : String) (value : Value) : Relocated location value value := by
  induction value using inductionOnParts with
  | scalar value => exact .scalar value
  | tuple items => exact .tuple items
  | set items => exact .set items
  | list items ih =>
      exact .list rfl fun index left _ => ih _ (List.getElem_mem left)
  | mapping entries ih =>
      cases found : reference? entries with
      | none => exact .mapping found rfl fun index left _ => ih _ (List.getElem_mem left)
      | some reference =>
          refine .reference found found .kept rfl fun index left _ => ?_
          exact ih _ (mem_siblings.1 (List.getElem_mem left)).1

/-- A mapping without a reference does not get one. -/
theorem Relocated.reference?_eq_none {entries others : Entries}
    (plain : reference? entries = none)
    (parts : List.Forall₂ (OnValues (Relocated location)) entries others) :
    reference? others = none := by
  rw [Option.eq_none_iff_forall_ne_some]
  intro moved found
  obtain ⟨result, foundResult, isText⟩ := reference?_eq_some.1 found
  obtain ⟨held, foundHeld, relocated⟩ := get?_of_onValues (onValues_swap parts) foundResult
  obtain ⟨scalar, rfl⟩ := scalar_of_textOf? isText
  cases relocated with
  | scalar => cases plain.symm.trans (reference?_eq_some.2 ⟨_, foundHeld, isText⟩)

/-! ## What pointers select -/

/-- A way down a value goes from no reference to its text. -/
def Outside : Value → List String → Prop
  | _, [] => True
  | value, segment :: rest =>
    (segment = "$ref" → referenceOf value = none) ∧
      ∀ next, Pointer.step value segment = .ok next → Outside next rest

/-- The way of a pointer goes from no reference to its text. -/
def PointsOutside (document : Value) (pointer : String) : Prop :=
  ∀ segments, Pointer.segments? (Text.percentDecode pointer).toList = some segments →
    Outside document segments

theorem outside_of_not_mem {segments : List String} (absent : "$ref" ∉ segments) :
    Outside value segments := by
  induction segments generalizing value with
  | nil => trivial
  | cons segment rest ih =>
      rw [List.mem_cons, not_or] at absent
      exact ⟨fun same => absurd same.symm absent.1, fun next _ => ih absent.2⟩

/-- The same fault, or a value and one with relocated references. -/
inductive SameSelection (location : String) :
    Except Pointer.Fault Value → Except Pointer.Fault Value → Prop where
  | fault (fault : Pointer.Fault) : SameSelection location (.error fault) (.error fault)
  | value {value other : Value} (relocated : Relocated location value other) :
      SameSelection location (.ok value) (.ok other)

theorem SameSelection.fault_or_value {left right : Except Pointer.Fault Value}
    (same : SameSelection location left right) :
    (∃ fault, left = .error fault ∧ right = .error fault) ∨
      ∃ value other, left = .ok value ∧ right = .ok other ∧ Relocated location value other := by
  cases same with
  | fault fault => exact .inl ⟨fault, rfl, rfl⟩
  | value relocated => exact .inr ⟨_, _, rfl, rfl, relocated⟩

theorem rel_item? {related : Value → Value → Prop} {left right : List Value}
    (parts : List.Forall₂ related left right) (index : Int) :
    Option.Rel related (Pointer.item? left index) (Pointer.item? right index) := by
  have here (position : Nat) : Option.Rel related left[position]? right[position]? := by
    induction parts generalizing position with
    | nil => exact .none
    | cons head _ ih =>
        cases position with
        | zero => exact .some head
        | succ position => exact ih position
  unfold Pointer.item?
  rw [← parts.length_eq]
  split
  next => exact here _
  next =>
    split
    next => exact here _
    next => exact .none

/-- The siblings of a reference are found beside it. -/
theorem get?_siblings {name : String} (beside : name ≠ "$ref") (entries : Entries) :
    Entries.get? (siblings entries) (.text name) = Entries.get? entries (.text name) := by
  rw [Entries.get?, Entries.get?, siblings, List.find?_filter]
  congr 2
  funext entry
  by_cases same : entry.1.same (.text name) = true
  · have apart : entry.1.same referenceKey = false := by
      rw [Scalar.same_text] at same
      simpa [same, referenceKey, Bool.eq_false_iff] using beside
    simp [same, apart]
  · simp [same]

theorem SameSelection.ofRel {left right : Option Value}
    (same : Option.Rel (Relocated location) left right) (fault : Pointer.Fault) :
    SameSelection location (left.elim (.error fault) .ok) (right.elim (.error fault) .ok) := by
  cases same with
  | some relocated => exact .value relocated
  | none => exact .fault fault

/-- A step down a value and one with relocated references. -/
theorem Relocated.step {segment : String} (relocated : Relocated location value other)
    (outside : segment = "$ref" → referenceOf value = none) :
    SameSelection location (Pointer.step value segment) (Pointer.step other segment) := by
  cases relocated with
  | scalar | tuple | set => exact .fault _
  | list length parts =>
      rw [Pointer.step_list, Pointer.step_list]
      refine .ofRel ?_ _
      cases (Number.readInteger 10 segment).toOption with
      | none => exact .none
      | some index => exact rel_item? (forall₂_iff_getElem.2 ⟨length, parts⟩) index
  | mapping plain keys values =>
      rw [Pointer.step_mapping, Pointer.step_mapping]
      exact .ofRel (rel_get? (onValues_iff_getElem.2 ⟨keys, values⟩) _) _
  | reference isReference _ _ keys beside =>
      have apart : segment ≠ "$ref" := by
        intro same
        cases isReference.symm.trans (outside same)
      have same := rel_get? (onValues_iff_getElem.2 ⟨keys, beside⟩) (.text segment)
      rw [get?_siblings apart, get?_siblings apart] at same
      rw [Pointer.step_mapping, Pointer.step_mapping]
      exact .ofRel same _

/-- The same way down a value and one with relocated references leads to such values again. -/
theorem Relocated.steps {segments : List String} (relocated : Relocated location value other)
    (outside : Outside value segments) :
    SameSelection location (segments.foldlM Pointer.step value)
      (segments.foldlM Pointer.step other) := by
  induction segments generalizing value other with
  | nil => exact .value relocated
  | cons segment rest ih =>
      obtain ⟨here, below⟩ := outside
      rw [List.foldlM_cons, List.foldlM_cons]
      rcases (relocated.step here).fault_or_value with
        ⟨fault, first, second⟩ | ⟨next, reached, first, second, further⟩
      · rw [first, second]
        exact .fault fault
      · rw [first, second]
        exact ih further (below next first)

/-- A pointer selects the same in a document and in one with relocated references. -/
theorem Relocated.select {pointer : String} (relocated : Relocated location document spread)
    (outside : PointsOutside document pointer) :
    SameSelection location (Pointer.resolve document pointer) (Pointer.resolve spread pointer) := by
  unfold Pointer.resolve
  split
  next segments read => exact relocated.steps (outside segments read)
  next => exact .fault _

/-! ## Two runs side by side -/

/-- The traversals of a value and of one with relocated references are related where, at every
reference, both follow it and come to related results. -/
theorem MonadRelation.relocated {m n : Type → Type} [Monad m] [Monad n] [LawfulMonad m]
    [LawfulMonad n] (relation : MonadRelation m n) {first : String → m (Option Value)}
    {second : String → n (Option Value)} (relocated : Relocated location value other)
    (followed : ∀ reference moved, Refers value reference → Relocates location reference moved →
      ∃ target reached, relation.relates target reached ∧ first reference = some <$> target ∧
        second moved = some <$> reached) :
    relation.relates (resolveTree first value) (resolveTree second other) := by
  induction relocated with
  | scalar | tuple | set =>
      rw [resolveTree, resolveTree]
      exact relation.pure _
  | list length _ ih =>
      rw [resolveTree, resolveTree]
      refine relation.map _ (relation.items (forall₂_iff_getElem.2 ⟨length, ?_⟩))
      exact fun index left right => ih index left right fun reference moved refers =>
        followed reference moved (.ofItem (List.getElem_mem left) refers)
  | mapping plain keys values ih =>
      have plainOther := Relocated.reference?_eq_none plain (onValues_iff_getElem.2 ⟨keys, values⟩)
      rw [resolveTree, resolveTree, plain, plainOther]
      refine relation.map _ (relation.entries (onValues_iff_getElem.2 ⟨keys, ?_⟩))
      exact fun index left right => ih index left right fun reference moved refers =>
        followed reference moved (.ofEntry (List.getElem_mem left) refers)
  | @reference entries others reference moved found replaced relocates keys _ ih =>
      obtain ⟨target, reached, same, expanded, alsoExpanded⟩ :=
        followed reference moved (.here found) relocates
      have siblingsRelated : relation.relates (resolveSiblings first entries)
          (resolveSiblings second others) := by
        rw [resolveSiblings_eq, resolveSiblings_eq]
        refine relation.entries (onValues_iff_getElem.2 ⟨keys, fun index left right => ?_⟩)
        have member := (mem_siblings.1 (List.getElem_mem left)).1
        exact ih index left right fun reference moved refers =>
          followed reference moved (.ofEntry member refers)
      have empty : (siblings entries).isEmpty = (siblings others).isEmpty := by
        simpa using congrArg List.isEmpty keys
      rw [resolveTree, resolveTree, found, replaced]
      dsimp only
      rw [expanded, alsoExpanded, bind_map_left, bind_map_left]
      refine relation.bind same fun result => ?_
      cases result with
      | scalar | list | tuple | set => exact relation.pure _
      | mapping result =>
          dsimp only
          rw [← empty]
          split
          next => exact relation.pure _
          next => exact relation.map _ siblingsRelated

/-- The same value or the same fault, which may name a relocated reference. -/
inductive SameOutcome (location : String) {α : Type} :
    Except (Fault ε) α → Except (Fault ε) α → Prop where
  | value (value : α) : SameOutcome location (.ok value) (.ok value)
  | fault (fault : Fault ε) : SameOutcome location (.error fault) (.error fault)
  | dangling {reference moved : String} (relocates : Relocates location reference moved)
      (fault : Pointer.Fault) :
      SameOutcome location (.error (.pointer reference fault)) (.error (.pointer moved fault))

theorem SameOutcome.eq_ok {α : Type} {value : α} {outcome : Except (Fault ε) α}
    (same : SameOutcome location (.ok value) outcome) : outcome = .ok value := by
  cases same
  rfl

/-- Having the same outcome goes along with the steps of a resolution. -/
def sameOutcome (location : String) (ε : Type) :
    MonadRelation (Resolve Id ε) (Resolve Id ε) where
  relates := SameOutcome location
  pure := .value
  bind := by
    intro α β first second next other steps after
    cases steps with
    | value value => exact after value
    | fault fault => exact .fault fault
    | dangling relocates fault => exact .dangling relocates fault

/-- A hop leads from a mark to a reference that is met in resolving its value. -/
def Hop (fetch : String → Except ε Value) (root : Scope) (key next : String) : Prop :=
  ∃ scope value reference, Designates fetch root key scope value ∧ Refers value reference ∧
    Targets fetch scope reference next

/-- No mark is come to again from itself. -/
def Straight (fetch : String → Except ε Value) (root : Scope) : Prop :=
  ∀ key, ¬Relation.TransGen (Hop fetch root) key key

section Straight

variable {root scope target : Scope} {visits : List Visit}

/-- Also counting the references that are never met, in tuples, does not take circles away. -/
theorem Acyclic.straight (acyclic : Acyclic fetch root) : Straight fetch root := by
  intro key loop
  refine acyclic key (Relation.TransGen.mono ?_ _ _ loop)
  intro first second hop
  obtain ⟨scope, value, reference, designates, refers, targets⟩ := hop
  exact ⟨scope, value, reference, designates, refers.deep, targets⟩

/-- What a branch has visited leads to the references at its end. -/
theorem Branch.hops (branch : Branch fetch root visits scope value) :
    ∀ key ∈ visits.map Visit.key, ∀ reference next, Refers value reference →
      Targets fetch scope reference next → Relation.TransGen (Hop fetch root) key next := by
  induction branch with
  | start => exact nofun
  | follow branch refers entered fresh selected ih =>
      have known := (branch.follow refers entered fresh selected).stands.known
      intro key member inner next innerRefers targets
      have hop : Hop fetch root (Visit.key ⟨_, _⟩) next :=
        ⟨_, _, inner, ⟨known, _, rfl, selected⟩, innerRefers, targets⟩
      rcases List.mem_cons.1 member with rfl | older
      · exact .single hop
      · exact (ih key older _ _ refers ⟨_, entered, rfl⟩).tail hop

/-- Without circles a branch can always go on. -/
theorem Straight.fresh (straight : Straight fetch root)
    (branch : Branch fetch root visits scope value) (refers : Refers value reference)
    (entered : enter (direct fetch) scope (split reference).1 = Except.ok target) :
    mark target.location (split reference).2 ∉ visits.map Visit.key := by
  intro repeated
  exact straight _ (branch.hops _ repeated reference _ refers ⟨target, entered, rfl⟩)

end Straight

/-- A reference that has not been met before is followed. -/
theorem expand_of_fresh {load : String → Resolve Id ε Value} {depth : Nat} {scope target : Scope}
    {seen : List String} (entered : enter load scope (split reference).1 = Except.ok target)
    (fresh : mark target.location (split reference).2 ∉ seen) :
    expand load (depth + 1) scope seen reference = some <$> (do
      let value ← lift
        ((Pointer.resolve target.root (split reference).2).mapError (.pointer reference))
      resolve load depth target (mark target.location (split reference).2 :: seen) value) := by
  rw [expand_succ, entered, map_bind]
  exact if_neg (by simpa using fresh)

/-- A document that answers at a location, the references of which stay inside of it, run in no
circle and go to nothing by way of the text of a reference. -/
structure SelfContained (fetch : String → Except ε Value) (location : String) (document : Value) :
    Prop where
  stored : fetch location = .ok document
  internal : ∀ reference, Refers document reference → (split reference).1 = ""
  straight : Straight fetch ⟨document, some location⟩
  outside : ∀ reference, Refers document reference → PointsOutside document (split reference).2

namespace SelfContained

variable {visits : List Visit} {depth : Nat}

/-- A relocated reference leads to the relocated document or to the stored one, at the same
location. -/
theorem enter_relocated (contained : SelfContained fetch location document)
    (relocated : Relocated location document spread) (internal : (split reference).1 = "")
    (relocates : Relocates location reference moved) :
    ∃ reached, Relocated location document reached ∧
      enter (direct fetch) ⟨spread, some location⟩ (split moved).1 =
        Except.ok ⟨reached, some location⟩ := by
  cases relocates with
  | kept => exact ⟨spread, relocated, enter_eq_ok.2 (.inl ⟨internal, rfl⟩)⟩
  | moved _ leads =>
      by_cases bare : (split moved).1 = ""
      · exact ⟨spread, relocated, enter_eq_ok.2 (.inl ⟨bare, rfl⟩)⟩
      · refine ⟨document, .refl location document, enter_eq_ok.2 (.inr ⟨bare, ?_⟩)⟩
        exact ⟨location, document, leads, contained.stored, rfl⟩

/-- Both runs follow a reference that they come to, the second one in the relocated document or in
the stored one. -/
theorem expand_relocated (contained : SelfContained fetch location document)
    (relocated : Relocated location document spread)
    (branch : Branch fetch ⟨document, some location⟩ visits ⟨document, some location⟩ value)
    (refers : Refers value reference) (relocates : Relocates location reference moved) :
    ∃ target reached : Resolve Id ε Value, SameOutcome location target reached ∧
      expand (direct fetch) depth ⟨document, some location⟩ (visits.map Visit.key) reference =
        some <$> target ∧
      expand (direct fetch) depth ⟨spread, some location⟩ (visits.map Visit.key) moved =
        some <$> reached := by
  induction depth generalizing visits value reference moved spread with
  | zero => exact ⟨throw .tooDeep, throw .tooDeep, .fault _, rfl, rfl⟩
  | succ depth ih =>
      have inDocument := Refers.ofPart branch.stands.part refers
      have internal := contained.internal reference inDocument
      have entered : enter (direct fetch) ⟨document, some location⟩ (split reference).1 =
          Except.ok ⟨document, some location⟩ := enter_eq_ok.2 (.inl ⟨internal, rfl⟩)
      obtain ⟨copy, relocatedCopy, alsoEntered⟩ :=
        contained.enter_relocated relocated internal relocates
      have fresh := contained.straight.fresh branch refers entered
      have alsoFresh : mark (some location) (split moved).2 ∉ visits.map Visit.key := by
        rwa [relocates.pointer_eq]
      refine ⟨_, _, ?_, expand_of_fresh entered fresh, expand_of_fresh alsoEntered alsoFresh⟩
      rw [relocates.pointer_eq]
      have same := relocatedCopy.select (contained.outside reference inDocument)
      rcases same.fault_or_value with
        ⟨fault, selected, reached⟩ | ⟨next, other, selected, reached, relocatedNext⟩
      · rw [selected, reached]
        exact .dangling relocates fault
      · rw [selected, reached]
        have further := branch.follow refers entered fresh selected
        exact (sameOutcome location ε).relocated relocatedNext
          fun inner movedInner innerRefers innerRelocates =>
            ih relocatedCopy further innerRefers innerRelocates

end SelfContained

/-- Whichever references of a stored document, which refers to nothing but itself and without
circles, are written with a location that leads from the document to itself: resolving it gives the
same result or fails for the same reason. -/
theorem dereference_relocated (contained : SelfContained fetch location document)
    (relocated : Relocated location document spread) (depth : Nat) :
    SameOutcome location (dereference fetch depth document (some location)).result
      (dereference fetch depth spread (some location)).result := by
  rw [dereference_result, dereference_result]
  exact (sameOutcome location ε).relocated relocated fun reference moved refers relocates =>
    contained.expand_relocated relocated .start refers relocates

/-- Loads one document, at one location. -/
def fetchOnly (location : String) (document : Value) (other : String) : Except Unit Value :=
  if other = location then .ok document else .error ()

/-- The document `shared` with one of its references relocated. -/
def sharedRelocated : Value :=
  .mapping [(.text "first",
      .mapping [(.text "$ref", .text "doc.json#/base"), (.text "note", .int 1)]),
    (.text "second", .list [.mapping [(.text "$ref", .text "#/base")]]),
    (.text "base", .mapping [(.text "size", .int 2)])]

theorem selfContained_shared : SelfContained (fetchOnly "doc.json" shared) "doc.json" shared := by
  have single (reference : String) (refers : DeepRefers shared reference) :
      reference = "#/base" := by
    simp [shared, reference?, Entries.get?_cons, referenceKey] at refers
    exact refers.symm
  refine ⟨if_pos rfl, ?_, ?_, ?_⟩
  · intro reference refers
    rw [single reference refers.deep]
    decide
  · refine (acyclic_of_single (.mapping [(.text "size", .int 2)]) "/base" ?_ (by rfl) ?_).straight
    · intro reference refers
      rw [single reference refers]
      decide
    · simp [reference?, Entries.get?_cons, referenceKey]
  · intro reference refers segments read
    rw [single reference refers.deep] at read
    have segmentsRead : segments = ["base"] := by
      cases read
      rfl
    rw [segmentsRead]
    exact outside_of_not_mem (by decide)

theorem relocated_shared : Relocated "doc.json" shared sharedRelocated := by
  have leads : Location.join (some "doc.json") "doc.json" = .ok "doc.json" := by decide +kernel
  have moves : Relocates "doc.json" "#/base" "doc.json#/base" :=
    .inFront (by decide) leads "/base"
  have note : List.Forall₂ (OnValues (Relocated "doc.json")) [(.text "note", .int 1)]
      [(.text "note", .int 1)] := .cons ⟨rfl, .refl _ _⟩ .nil
  refine .ofEntries (by rfl) (.cons ⟨rfl, ?_⟩ (List.forall₂_same.2 fun _ _ => ⟨rfl, .refl _ _⟩))
  exact .ofSiblings (by rfl) (by rfl) moves note

/-- Resolving `sharedRelocated` loads `shared`, and gives what resolving `shared` gives. -/
theorem dereference_relocated_shared :
    SelfContained (fetchOnly "doc.json" shared) "doc.json" shared ∧
      Relocated "doc.json" shared sharedRelocated ∧
      (dereference (fetchOnly "doc.json" shared) 2 sharedRelocated (some "doc.json")).result =
        .ok sharedResolved := by
  have original :
      (dereference (fetchOnly "doc.json" shared) 2 shared (some "doc.json")).result =
        .ok sharedResolved := by cbv
  have same := dereference_relocated selfContained_shared relocated_shared 2
  rw [original] at same
  exact ⟨selfContained_shared, relocated_shared, same.eq_ok⟩

/-- The document `paired` with the reference in its tuple relocated. -/
def pairedRelocated : Value :=
  .mapping [(.text "pairs",
      .list [.tuple [.text "x", .mapping [(.text "$ref", .text "doc.yaml#/base")]]]),
    (.text "base", .int 1)]

/-- A document with a reference. -/
def pointing (reference : String) : Value :=
  .mapping [(.text "a", .mapping [(.text "$ref", .text reference)]), (.text "base", .int 1)]

theorem acyclic_of_base {location : Option String}
    (single : ∀ reference, DeepRefers document reference → reference = "#/base")
    (selected : Pointer.resolve document "/base" = .ok (.int 1)) :
    Acyclic fetch ⟨document, location⟩ := by
  refine acyclic_of_single (.int 1) "/base" ?_ selected (by simp)
  intro reference refers
  rw [single reference refers]
  decide

/-- A relocated reference shows where it stands in a tuple, which is copied as it is. And nothing
is put in front of a pointer where a location has the mark in it that ends the location of a
reference: in the reference it is another location. -/
theorem relocation_shows :
    ((∀ reference, DeepRefers paired reference → reference = "#/base") ∧
      Acyclic (fetchOnly "doc.yaml" paired) ⟨paired, some "doc.yaml"⟩ ∧
      Location.join (some "doc.yaml") "doc.yaml" = .ok "doc.yaml" ∧
      (dereference (fetchOnly "doc.yaml" paired) 2 paired (some "doc.yaml")).result =
        .ok paired ∧
      (dereference (fetchOnly "doc.yaml" paired) 2 pairedRelocated (some "doc.yaml")).result =
        .ok pairedRelocated ∧
      paired ≠ pairedRelocated) ∧
    (∀ reference, DeepRefers (pointing "#/base") reference → reference = "#/base") ∧
      Acyclic (fetchOnly "doc#1.json" (pointing "#/base"))
        ⟨pointing "#/base", some "doc#1.json"⟩ ∧
      Location.join (some "doc#1.json") "doc#1.json" = .ok "doc#1.json" ∧
      (dereference (fetchOnly "doc#1.json" (pointing "#/base")) 2 (pointing "#/base")
        (some "doc#1.json")).result = .ok (.mapping [(.text "a", .int 1), (.text "base", .int 1)]) ∧
      (dereference (fetchOnly "doc#1.json" (pointing "#/base")) 2 (pointing "doc#1.json#/base")
        (some "doc#1.json")).result.isOk = false := by
  have inTuple (reference : String) (refers : DeepRefers paired reference) :
      reference = "#/base" := by
    simp [paired, reference?, Entries.get?_cons, referenceKey] at refers
    exact refers.symm
  have inMapping (reference : String) (refers : DeepRefers (pointing "#/base") reference) :
      reference = "#/base" := by
    simp [pointing, reference?, Entries.get?_cons, referenceKey] at refers
    exact refers.symm
  refine ⟨⟨inTuple, acyclic_of_base inTuple (by rfl), by decide +kernel, by cbv, by cbv, ?_⟩,
    inMapping, acyclic_of_base inMapping (by rfl), by decide +kernel, by cbv, by decide +kernel⟩
  simp [paired, pairedRelocated]

end RouteTypes.Reference
