import Mathlib
import RouteTypes.Proofs.Pointer.Selection
import RouteTypes.Proofs.Reference.Cache
import RouteTypes.Proofs.Reference.Resolution

/-!
# The unfolding of a document

A document whose references stay inside of it stands for a tree, which is infinite where the
document refers to itself: on the way down, every reference is followed before the next step.
Resolving the document replaces references by what they lead to and leaves some of them where the
document starts over, but it does not change this tree (`dereference_unfolding`).

The tree is described by what is seen at the end of every path. A resolved value and the value
it comes from are related; following the references of both leads to values of the same kind
whose parts are related again (`Resolved.leads`), so the same is seen along every path.
-/

namespace RouteTypes.Reference

open Value

/-! ## What references lead to -/

/-- What following the references of a value leads to, in the document at `root`: a value that
refers to nothing, with the siblings of all references on the way laid over it, or the fault of a
pointer that selects nothing. A chain of references without an end leads to nothing at all. -/
inductive Leads (root : Value) : Value → Except Pointer.Fault Value → Prop where
  | arrived {value : Value} (plain : referenceOf value = none) : Leads root value (.ok value)
  | dangling {entries : Entries} {reference : String} {fault : Pointer.Fault}
      (found : reference? entries = some reference)
      (broken : Pointer.resolve root (split reference).2 = .error fault) :
      Leads root (.mapping entries) (.error fault)
  | followed {entries : Entries} {reference : String} {target : Value}
      {outcome : Except Pointer.Fault Value}
      (found : reference? entries = some reference)
      (selected : Pointer.resolve root (split reference).2 = .ok target)
      (rest : Leads root target outcome) :
      Leads root (.mapping entries) (outcome.map (overlay · (siblings entries)))

/-- A step from a value to one of its parts. -/
inductive Segment where
  | key (name : String)
  | index (position : Nat)
  deriving DecidableEq, Repr

/-- The part of a value that a step leads to. -/
def part? : Value → Segment → Option Value
  | .mapping entries, .key name => Entries.get? entries (.text name)
  | .list items, .index position => items[position]?
  | .tuple items, .index position => items[position]?
  | _, _ => none

/-- What is seen of a value without looking at its parts. -/
inductive Sight where
  | scalar (value : Scalar)
  | list (length : Nat)
  | tuple (length : Nat)
  | set (items : List Scalar)
  | mapping (keys : List Scalar)
  deriving DecidableEq, Repr

/-- What is seen of a value. -/
def sight : Value → Sight
  | .scalar value => .scalar value
  | .list items => .list items.length
  | .tuple items => .tuple items.length
  | .set items => .set items
  | .mapping entries => .mapping (entries.map Prod.fst)

/-- What is seen at the end of a path when all references on the way are followed in the document
at `root`: a value, or that a reference is dangling there. -/
inductive Shows (root : Value) :
    Value → List Segment → Except Pointer.Fault Sight → Prop where
  | here {value : Value} {outcome : Except Pointer.Fault Value} (leads : Leads root value outcome) :
      Shows root value [] (outcome.map sight)
  | deeper {value reached next : Value} {segment : Segment} {path : List Segment}
      {seen : Except Pointer.Fault Sight} (leads : Leads root value (.ok reached))
      (step : part? reached segment = some next) (rest : Shows root next path seen) :
      Shows root value (segment :: path) seen

/-! ## Values of the same kind -/

/-- Values of the same kind, the parts of which are related. -/
inductive Alike (related : Value → Value → Prop) : Value → Value → Prop where
  | scalar (value : Scalar) : Alike related (.scalar value) (.scalar value)
  | list {left right : List Value} (parts : List.Forall₂ related left right) :
      Alike related (.list left) (.list right)
  | tuple {left right : List Value} (parts : List.Forall₂ related left right) :
      Alike related (.tuple left) (.tuple right)
  | set (items : List Scalar) : Alike related (.set items) (.set items)
  | mapping {left right : Entries} (parts : List.Forall₂ (OnValues related) left right) :
      Alike related (.mapping left) (.mapping right)

/-- The same fault, or values of the same kind, the parts of which are related. -/
inductive Agree (related : Value → Value → Prop) :
    Except Pointer.Fault Value → Except Pointer.Fault Value → Prop where
  | fault (fault : Pointer.Fault) : Agree related (.error fault) (.error fault)
  | value {left right : Value} (alike : Alike related left right) :
      Agree related (.ok left) (.ok right)

variable {related : Value → Value → Prop} {left right : Value}

theorem forall₂_swap {α β : Type} {relation : α → β → Prop} {left : List α} {right : List β}
    (parts : List.Forall₂ relation left right) :
    List.Forall₂ (fun second first => relation first second) right left := by
  induction parts with
  | nil => exact .nil
  | cons head _ ih => exact .cons head ih

theorem Alike.swap (alike : Alike related left right) :
    Alike (fun second first => related first second) right left := by
  cases alike with
  | scalar value => exact .scalar value
  | list parts => exact .list (forall₂_swap parts)
  | tuple parts => exact .tuple (forall₂_swap parts)
  | set items => exact .set items
  | mapping parts => exact .mapping (onValues_swap parts)

theorem Agree.swap {left right : Except Pointer.Fault Value} (agree : Agree related left right) :
    Agree (fun second first => related first second) right left := by
  cases agree with
  | fault fault => exact .fault fault
  | value alike => exact .value alike.swap

theorem Alike.refl (reflexive : ∀ value, related value value) (value : Value) :
    Alike related value value := by
  cases value with
  | scalar value => exact .scalar value
  | list items => exact .list (List.forall₂_same.2 fun item _ => reflexive item)
  | tuple items => exact .tuple (List.forall₂_same.2 fun item _ => reflexive item)
  | set items => exact .set items
  | mapping entries =>
      exact .mapping (List.forall₂_same.2 fun entry _ => ⟨rfl, reflexive entry.2⟩)

theorem Agree.refl (reflexive : ∀ value, related value value)
    (outcome : Except Pointer.Fault Value) : Agree related outcome outcome := by
  cases outcome with
  | error fault => exact .fault fault
  | ok value => exact .value (.refl reflexive value)

theorem sight_eq_of_alike (alike : Alike related left right) : sight left = sight right := by
  cases alike with
  | scalar | set => rfl
  | list parts => rw [sight, sight, parts.length_eq]
  | tuple parts => rw [sight, sight, parts.length_eq]
  | mapping parts => rw [sight, sight, keys_eq_of_onValues parts]

/-- A step that one of two values of the same kind allows, the other one allows too. -/
theorem part?_of_alike (alike : Alike related left right) {segment : Segment} {part : Value}
    (step : part? left segment = some part) :
    ∃ other, part? right segment = some other ∧ related part other := by
  have items {first second : List Value} (parts : List.Forall₂ related first second)
      {position : Nat} (found : first[position]? = some part) :
      ∃ other, second[position]? = some other ∧ related part other := by
    induction parts generalizing position with
    | nil => simp at found
    | cons head _ ih =>
        cases position with
        | zero =>
            rw [List.getElem?_cons_zero, Option.some_inj] at found
            exact ⟨_, rfl, found ▸ head⟩
        | succ position => exact ih found
  cases alike with
  | scalar | set => simp [part?] at step
  | list parts =>
      cases segment with
      | key => simp [part?] at step
      | index position => exact items parts step
  | tuple parts =>
      cases segment with
      | key => simp [part?] at step
      | index position => exact items parts step
  | mapping parts =>
      cases segment with
      | index => simp [part?] at step
      | key name =>
          rw [part?] at step ⊢
          exact get?_of_onValues parts step

/-- Laying related siblings over values of the same kind gives values of the same kind. -/
theorem Agree.overlay {left right : Except Pointer.Fault Value} {extra others : Entries}
    (agree : Agree related left right)
    (additions : List.Forall₂ (OnValues related) extra others) :
    Agree related (left.map (overlay · extra)) (right.map (overlay · others)) := by
  cases agree with
  | fault fault => exact .fault fault
  | value alike =>
      refine .value ?_
      cases alike with
      | scalar value => exact .scalar value
      | list parts => exact .list parts
      | tuple parts => exact .tuple parts
      | set items => exact .set items
      | mapping parts => exact .mapping (Entries.forall₂_putAll parts additions)

/-! ## What is seen along a path -/

/-- Where related values lead to values of the same kind with related parts, what is seen of the
one is seen of the other. -/
theorem Shows.transport (related : Value → Value → Prop) {root value other : Value}
    {path : List Segment} {seen : Except Pointer.Fault Sight}
    (leads : ∀ {value other : Value}, related value other → ∀ outcome, Leads root value outcome →
      ∃ found, Leads root other found ∧ Agree related outcome found)
    (shows : Shows root value path seen) (start : related value other) :
    Shows root other path seen := by
  induction shows generalizing other with
  | here arrives =>
      obtain ⟨found, arrived, agree⟩ := leads start _ arrives
      cases agree with
      | fault fault => exact .here arrived
      | value alike =>
          have same : (Except.ok _ : Except Pointer.Fault Value).map sight = _ :=
            congrArg Except.ok (sight_eq_of_alike alike)
          rw [same]
          exact .here arrived
  | deeper arrives step _ ih =>
      obtain ⟨found, arrived, agree⟩ := leads start _ arrives
      cases agree with
      | value alike =>
          obtain ⟨next, below, relatedNext⟩ := part?_of_alike alike step
          exact .deeper arrived below (ih relatedNext)

/-! ## Documents that refer to themselves only -/

/-- A document with text keys, the references of which stay inside of it. -/
structure Inward (document : Value) : Prop where
  textual : ∀ entries, Part (.mapping entries) document → Entries.Textual entries
  internal : ∀ reference, Refers document reference → (split reference).1 = ""
  unnested : Unnested document

section Inward

variable {ε : Type} {load : String → Resolve Id ε Value} {scope : Scope} {depth : Nat}
variable {seen : List String} {value result : Value} {entries extra : Entries}

theorem enter_internal {reference : String} {target : Scope}
    (internal : (split reference).1 = "")
    (entered : enter load scope (split reference).1 = Except.ok target) : target = scope := by
  rw [internal] at entered
  exact (Except.ok.inj entered).symm

theorem textual_siblings (textual : Entries.Textual entries) :
    Entries.Textual (siblings entries) where
  texts entry member := textual.texts entry (mem_siblings.1 member).1
  distinct := textual.distinct.sublist (List.filter_sublist.map Prod.fst)

/-- A mapping that comes out of the resolution has text keys, each of them once. -/
theorem textual_of_resolves (inward : Inward scope.root) (part : Part value scope.root)
    (derivation : Resolves load depth scope seen value result) :
    ∀ extra, result = .mapping extra → Entries.Textual extra := by
  induction derivation with
  | scalar | tuple | set | list =>
      intro extra equal
      cases equal
  | mapping _ keys =>
      intro extra equal
      cases equal
      exact (inward.textual _ part).ofKeys keys
  | left =>
      intro extra equal
      cases equal
      exact inward.textual _ part
  | other _ _ _ _ _ noMapping =>
      intro extra equal
      exact absurd equal (noMapping extra)
  | laid found entered _ selected _ keys _ ih =>
      intro extra equal
      cases equal
      have internal := inward.internal _ (.ofPart part (.here found))
      cases enter_internal internal entered
      have base := ih inward (Pointer.part_of_resolve selected) _ rfl
      exact base.putAll ((textual_siblings (inward.textual _ part)).ofKeys keys).texts

/-! ## Resolved values lead to the same -/

/-- A value of a document and what it may have become: itself or the result of resolving it. -/
def Resolved (load : String → Resolve Id ε Value) (scope : Scope) (value result : Value) : Prop :=
  value = result ∨ Part value scope.root ∧
    ∃ depth seen, Resolves load depth scope seen value result

/-- Whatever one of two values leads to, the other one leads to something that agrees with it. -/
structure Corresponds (related : Value → Value → Prop) (root value result : Value) : Prop where
  forth : ∀ outcome, Leads root value outcome →
    ∃ found, Leads root result found ∧ Agree related outcome found
  back : ∀ found, Leads root result found →
    ∃ outcome, Leads root value outcome ∧ Agree related outcome found

theorem Resolved.refl (value : Value) : Resolved load scope value value := .inl rfl

theorem Corresponds.refl (reflexive : ∀ value, related value value) (root value : Value) :
    Corresponds related root value value where
  forth outcome leads := ⟨outcome, leads, .refl reflexive outcome⟩
  back found leads := ⟨found, leads, .refl reflexive found⟩

theorem leads_plain {root : Value} {outcome : Except Pointer.Fault Value}
    (plain : referenceOf value = none) : Leads root value outcome ↔ outcome = .ok value := by
  constructor
  · intro leads
    cases leads with
    | arrived => rfl
    | dangling found => cases plain.symm.trans found
    | followed found => cases plain.symm.trans found
  · intro equal
    subst equal
    exact .arrived plain

theorem leads_reference {root target : Value} {reference : String}
    {outcome : Except Pointer.Fault Value} (found : reference? entries = some reference)
    (selected : Pointer.resolve root (split reference).2 = .ok target) :
    Leads root (.mapping entries) outcome ↔
      ∃ rest, Leads root target rest ∧ outcome = rest.map (overlay · (siblings entries)) := by
  constructor
  · intro leads
    cases leads with
    | arrived plain => cases found.symm.trans plain
    | dangling other broken =>
        cases found.symm.trans other
        cases selected.symm.trans broken
    | followed other chosen rest =>
        cases found.symm.trans other
        cases selected.symm.trans chosen
        exact ⟨_, rest, rfl⟩
  · intro given
    rcases given with ⟨rest, leads, rfl⟩
    exact .followed found selected leads

theorem Corresponds.plain {root : Value} (plain : referenceOf value = none)
    (plainResult : referenceOf result = none) (alike : Alike related value result) :
    Corresponds related root value result where
  forth outcome leads := by
    rw [leads_plain plain] at leads
    exact ⟨.ok result, .arrived plainResult, leads ▸ .value alike⟩
  back found leads := by
    rw [leads_plain plainResult] at leads
    exact ⟨.ok value, .arrived plain, leads ▸ .value alike⟩

/-- Two values correspond where both lead to what other values lead to that correspond, with
related siblings laid over it. -/
theorem Corresponds.overlay {root target reached : Value} {additions others : Entries}
    (inner : Corresponds related root target reached)
    (parts : List.Forall₂ (OnValues related) additions others)
    (start : ∀ outcome, Leads root value outcome ↔
      ∃ rest, Leads root target rest ∧ outcome = rest.map (Reference.overlay · additions))
    (finish : ∀ outcome, Leads root result outcome ↔
      ∃ rest, Leads root reached rest ∧ outcome = rest.map (Reference.overlay · others)) :
    Corresponds related root value result where
  forth outcome leads := by
    obtain ⟨rest, leadsRest, rfl⟩ := (start outcome).1 leads
    obtain ⟨found, leadsFound, agree⟩ := inner.forth rest leadsRest
    exact ⟨_, (finish _).2 ⟨found, leadsFound, rfl⟩, agree.overlay parts⟩
  back found leads := by
    obtain ⟨rest, leadsRest, rfl⟩ := (finish found).1 leads
    obtain ⟨outcome, leadsOutcome, agree⟩ := inner.back rest leadsRest
    exact ⟨_, (start _).2 ⟨outcome, leadsOutcome, rfl⟩, agree.overlay parts⟩

theorem siblings_put {name : String} (beside : Scalar.text name ≠ referenceKey) (held : Value) :
    siblings (Entries.put entries (.text name) held) =
      Entries.put (siblings entries) (.text name) held := by
  have kept : (Scalar.text name).same referenceKey = false := by
    simpa [Bool.eq_false_iff, referenceKey] using beside
  induction entries with
  | nil => simp [Entries.put, siblings, kept]
  | cons entry rest ih =>
      by_cases equal : entry.1 = .text name
      · simp [Entries.put, siblings, equal, kept]
      · rw [Entries.put, if_neg (by simpa using equal)]
        by_cases isReference : entry.1.same referenceKey = true
        · simpa [siblings, isReference] using ih
        · simpa [siblings, isReference, Entries.put, equal] using ih

theorem siblings_putAll (texts : ∀ entry ∈ extra, ∃ name, entry.1 = .text name)
    (beside : ∀ entry ∈ extra, entry.1 ≠ referenceKey) :
    siblings (Entries.putAll entries extra) = Entries.putAll (siblings entries) extra := by
  induction extra generalizing entries with
  | nil => rfl
  | cons entry rest ih =>
      obtain ⟨name, isText⟩ := texts entry List.mem_cons_self
      have different := beside entry List.mem_cons_self
      rw [isText] at different
      rw [Entries.putAll_cons, Entries.putAll_cons, isText,
        ih (fun other member => texts other (List.mem_cons_of_mem _ member))
          (fun other member => beside other (List.mem_cons_of_mem _ member)),
        siblings_put different]

theorem overlay_overlay {additions : Entries} (textual : Entries.Textual additions)
    (texts : ∀ entry ∈ extra, ∃ name, entry.1 = .text name) (target : Value) :
    overlay (overlay target additions) extra = overlay target (Entries.putAll additions extra) := by
  cases target with
  | mapping entries => rw [overlay, overlay, overlay, Entries.putAll_putAll textual texts]
  | scalar | list | tuple | set => rfl

theorem leads_dangling {root : Value} {reference : String} {fault : Pointer.Fault}
    {outcome : Except Pointer.Fault Value} (found : reference? entries = some reference)
    (broken : Pointer.resolve root (split reference).2 = .error fault) :
    Leads root (.mapping entries) outcome ↔ outcome = .error fault := by
  constructor
  · intro leads
    cases leads with
    | arrived plain => cases found.symm.trans plain
    | dangling other fails =>
        cases found.symm.trans other
        cases broken.symm.trans fails
        rfl
    | followed other chosen =>
        cases found.symm.trans other
        cases broken.symm.trans chosen
  · intro equal
    subst equal
    exact .dangling found broken

/-- A mapping over which entries are laid leads to what the mapping leads to, with the entries
laid over that. The mapping may itself be a reference that was left. -/
theorem leads_laid {root : Value} {base : Entries} (textual : Entries.Textual base)
    (texts : ∀ entry ∈ extra, ∃ name, entry.1 = .text name)
    (beside : ∀ entry ∈ extra, entry.1 ≠ referenceKey)
    (outcome : Except Pointer.Fault Value) :
    Leads root (.mapping (Entries.putAll base extra)) outcome ↔
      ∃ rest, Leads root (.mapping base) rest ∧ outcome = rest.map (overlay · extra) := by
  have same : reference? (Entries.putAll base extra) = reference? base :=
    reference?_putAll beside
  cases found : reference? base with
  | none =>
      have plain : referenceOf (.mapping base) = none := found
      have plainLaid : referenceOf (.mapping (Entries.putAll base extra)) = none :=
        same.trans found
      simp only [leads_plain plain, leads_plain plainLaid, exists_eq_left]
      rfl
  | some reference =>
      cases selected : Pointer.resolve root (split reference).2 with
      | error fault =>
          simp only [leads_dangling (same.trans found) selected, leads_dangling found selected,
            exists_eq_left]
          rfl
      | ok target =>
          simp only [leads_reference (same.trans found) selected,
            leads_reference found selected]
          have laid (rest : Except Pointer.Fault Value) :
              (rest.map (overlay · (siblings base))).map (overlay · extra) =
                rest.map (overlay · (siblings (Entries.putAll base extra))) := by
            cases rest with
            | error fault => rfl
            | ok reached =>
                rw [siblings_putAll texts beside]
                exact congrArg Except.ok
                  (overlay_overlay (textual_siblings textual) texts reached)
          constructor
          · intro given
            rcases given with ⟨rest, leads, rfl⟩
            exact ⟨_, ⟨rest, leads, rfl⟩, (laid rest).symm⟩
          · intro given
            rcases given with ⟨_, ⟨rest, leads, rfl⟩, rfl⟩
            exact ⟨rest, leads, laid rest⟩

/-- A resolved value leads to what the value leads to. -/
theorem corresponds_of_resolves (inward : Inward scope.root) (part : Part value scope.root)
    (derivation : Resolves load depth scope seen value result) :
    Corresponds (Resolved load scope) scope.root value result := by
  induction derivation with
  | scalar | tuple | set => exact .refl Resolved.refl _ _
  | @list depth scope seen items results length parts =>
      refine .plain rfl rfl (.list (forall₂_iff_getElem.2 ⟨length, fun index left right => ?_⟩))
      have inside := Part.ofItem (List.getElem_mem left)
      exact .inr ⟨inside.trans part, depth, seen, parts index left right⟩
  | @mapping depth scope seen entries results plain keys values =>
      have derived := onValues_iff_getElem.2 ⟨keys, values⟩
      refine .plain plain
        (reference?_of_resolves plain (fun held => inward.unnested entries held part) derived)
        (.mapping (onValues_iff_getElem.2 ⟨keys, fun index left right => ?_⟩))
      have inside := Part.ofEntry (List.getElem_mem left)
      exact .inr ⟨inside.trans part, depth, seen, values index left right⟩
  | left => exact .refl Resolved.refl _ _
  | @other depth scope target seen entries reference value result found entered _ selected _
      noMapping ih =>
      have internal := inward.internal _ (.ofPart part (.here found))
      cases enter_internal internal entered
      have step := ih inward (Pointer.part_of_resolve selected)
      have plain : referenceOf result = none := by
        cases result with
        | mapping entries => exact absurd rfl (noMapping entries)
        | scalar | list | tuple | set => rfl
      have unchanged : overlay result (siblings entries) = result := by
        cases result with
        | mapping entries => exact absurd rfl (noMapping entries)
        | scalar | list | tuple | set => rfl
      -- the siblings are not resolved here, but they do not show either
      have same : List.Forall₂ (OnValues (Resolved load scope)) (siblings entries)
          (siblings entries) := List.forall₂_same.2 fun _ _ => ⟨rfl, .refl _⟩
      refine step.overlay same (fun outcome => leads_reference found selected) fun outcome => ?_
      simp only [leads_plain plain, exists_eq_left]
      rw [Except.map, unchanged]
  | @laid depth scope target seen entries base extra reference value found entered _ selected
      inner keys beside ih =>
      have internal := inward.internal _ (.ofPart part (.here found))
      cases enter_internal internal entered
      have inside := Pointer.part_of_resolve selected
      have step := ih inward inside
      have siblingsResolved : List.Forall₂ (OnValues (Resolved load scope))
          (siblings entries) extra := by
        refine onValues_iff_getElem.2 ⟨keys, fun index left right => ?_⟩
        have member := mem_siblings.1 (List.getElem_mem left)
        exact .inr ⟨(Part.ofEntry member.1).trans part, _, seen, beside index left right⟩
      have texts := ((textual_siblings (inward.textual _ part)).ofKeys keys).texts
      exact step.overlay siblingsResolved (fun outcome => leads_reference found selected)
        (leads_laid (textual_of_resolves inward inside inner _ rfl) texts (beside_of_keys keys))

theorem corresponds_of_resolved (scope : Scope) (inward : Inward scope.root)
    (resolved : Resolved load scope value result) :
    Corresponds (Resolved load scope) scope.root value result := by
  rcases resolved with rfl | ⟨part, depth, seen, success⟩
  · exact .refl Resolved.refl _ _
  · exact corresponds_of_resolves inward part success

end Inward

/-- Resolving a document that refers to itself only, however often and in whatever circles, does
not change what is seen along any path. -/
theorem dereference_unfolding {ε : Type} {fetch : String → Except ε Value} {depth : Nat}
    {document result : Value} {location : Option String} (inward : Inward document)
    (success : (dereference fetch depth document location).result = .ok result)
    (path : List Segment) (seen : Except Pointer.Fault Sight) :
    Shows document document path seen ↔ Shows document result path seen := by
  rw [dereference_result, resolve_eq_ok] at success
  have start : Resolved (direct fetch) ⟨document, location⟩ document result :=
    .inr ⟨.whole document, depth, [], success⟩
  constructor
  · intro shows
    refine shows.transport (Resolved (direct fetch) ⟨document, location⟩) ?_ start
    intro first second related
    exact (corresponds_of_resolved ⟨document, location⟩ inward related).forth
  · intro shows
    refine shows.transport
      (fun second first => Resolved (direct fetch) ⟨document, location⟩ first second) ?_ start
    intro second first related outcome leads
    obtain ⟨found, leadsFound, agree⟩ :=
      (corresponds_of_resolved ⟨document, location⟩ inward related).back outcome leads
    exact ⟨found, leadsFound, agree.swap⟩

/-- A mapping that refers to the one around it, with a sibling beside the reference. -/
def ringReference : Entries := [(.text "$ref", .text "#/node"), (.text "note", .int 1)]

/-- A document that refers to itself. -/
def ring : Value :=
  .mapping [(.text "node", .mapping [(.text "child", .mapping ringReference)])]

/-- What comes out of resolving `ring`: the reference is left where the document starts over. -/
def ringResolved : Value :=
  .mapping [(.text "node", .mapping [(.text "child", .mapping
    [(.text "child", .mapping ringReference), (.text "note", .int 1)])])]

theorem inward_ring : Inward ring where
  textual entries part := by
    simp [ring, ringReference] at part
    rcases part with rfl | rfl | rfl <;> exact ⟨by simp, by simp⟩
  internal reference refers := by
    obtain ⟨entries, part, found⟩ := refers
    simp [ring, ringReference] at part
    rcases part with rfl | rfl | rfl <;> cases found
    decide
  unnested entries held part found := by
    simp [ring, ringReference] at part
    rcases part with rfl | rfl | rfl <;> cases found
    rfl

/-- In `ring` one may go down for ever; behind the second reference the sibling is seen again, in
the document and in what comes out of resolving it. -/
theorem dereference_unfolding_ring :
    (dereference (fun _ => Except.error ()) 3 ring none).result = .ok ringResolved ∧
      Shows ring ringResolved [.key "node", .key "child", .key "child", .key "note"]
        (.ok (.scalar (.int 1))) := by
  have success :
      (dereference (fun _ => Except.error ()) 3 ring none).result = .ok ringResolved := by cbv
  refine ⟨success, (dereference_unfolding inward_ring success _ _).1 ?_⟩
  have selected : Pointer.resolve ring (split "#/node").2 =
      .ok (.mapping [(.text "child", .mapping ringReference)]) := by rfl
  have child : Leads ring (.mapping ringReference)
      (.ok (.mapping [(.text "child", .mapping ringReference), (.text "note", .int 1)])) :=
    @Leads.followed ring ringReference "#/node" _ _ rfl selected (.arrived rfl)
  have note : Shows ring (.int 1) [] (.ok (.scalar (.int 1))) :=
    @Shows.here ring (.int 1) (.ok (.int 1)) (.arrived rfl)
  have second : Shows ring (.mapping ringReference) [.key "note"] (.ok (.scalar (.int 1))) :=
    .deeper child rfl note
  have first : Shows ring (.mapping ringReference) [.key "child", .key "note"]
      (.ok (.scalar (.int 1))) := .deeper child rfl second
  have node : Shows ring (.mapping [(.text "child", .mapping ringReference)])
      [.key "child", .key "child", .key "note"] (.ok (.scalar (.int 1))) :=
    .deeper (.arrived rfl) rfl first
  exact .deeper (.arrived rfl) rfl node

end RouteTypes.Reference
