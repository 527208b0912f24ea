import Mathlib.Data.List.Forall2
import RouteTypes.Proofs.Yaml.Token
import RouteTypes.Yaml.Node

/-!
# Tokens that form no node

The composition of nodes takes tokens from the front of those that are left. Two compositions whose
tokens differ only in the fault that a token tells of go in step (`Lockstep`), up to this token. So
a text whose tokens break off forms no node for the reason that the last one tells, exactly if the
tokens in front of it are taken and another one is asked for (`ofTokens_scan_eq_error_iff`).
-/

namespace RouteTypes.Yaml

/-- Two tokens are the same and can be read, or they tell of the two given faults. -/
inductive Token.Alike (left right : Fault) : Token → Token → Prop where
  | readable {token : Token} (readable : ∀ fault, .unreadable fault ≠ token) :
      Alike left right token token
  | told : Alike left right (.unreadable left) (.unreadable right)

/-- Two outcomes are the same, or they are the two given faults. -/
inductive Agree (left right : Fault) {α : Type} (same : α → α → Prop) :
    Except Fault α → Except Fault α → Prop where
  | ok {value other : α} (agree : same value other) : Agree left right same (.ok value) (.ok other)
  | malformed : Agree left right same (.error .malformed) (.error .malformed)
  | told : Agree left right same (.error left) (.error right)

namespace Agree

variable {left right : Fault} {α β : Type} {same : α → α → Prop} {after : β → β → Prop}

theorem bind {step other : Except Fault α} {next further : α → Except Fault β}
    (first : Agree left right same step other)
    (continues : ∀ value another, same value another →
      Agree left right after (next value) (further another)) :
    Agree left right after (step >>= next) (other >>= further) := by
  cases first with
  | ok agree => exact continues _ _ agree
  | malformed => exact .malformed
  | told => exact .told

theorem map {step other : Except Fault α} (first : Agree left right same step other)
    {change : α → β} (changes : ∀ value another, same value another →
      after (change value) (change another)) :
    Agree left right after (change <$> step) (change <$> other) := by
  cases first with
  | ok agree => exact .ok (changes _ _ agree)
  | malformed => exact .malformed
  | told => exact .told

end Agree

namespace Node

variable {left right : Fault} {α β : Type}

/-- Two states of the composition differ only in the fault that tokens tell of. -/
structure State.Alike (left right : Fault) (state other : State) : Prop where
  tokens : List.Forall₂ (Token.Alike left right) state.tokens other.tokens
  handles : state.handles = other.handles
  anchors : state.anchors = other.anchors

/-- From states that differ only in the fault that tokens tell of, a step gives the same. -/
def Lockstep (left right : Fault) (step : Compose α) : Prop :=
  ∀ state other : State, State.Alike left right state other →
    Agree left right
      (fun read another => read.1 = another.1 ∧ State.Alike left right read.2 another.2)
      (step.run state) (step.run other)

namespace Lockstep

theorem of_pure (value : α) : Lockstep left right (pure value : Compose α) :=
  fun _ _ alike => .ok ⟨rfl, alike⟩

theorem malformed : Lockstep left right (Node.malformed : Compose α) :=
  fun _ _ _ => .malformed

theorem of_modify {change : State → State}
    (keeps : ∀ state other, State.Alike left right state other →
      State.Alike left right (change state) (change other)) :
    Lockstep left right (modify change : Compose Unit) :=
  fun state other alike => .ok ⟨rfl, keeps state other alike⟩

theorem bind {step : Compose α} {next : α → Compose β} (first : Lockstep left right step)
    (continues : ∀ value, Lockstep left right (next value)) :
    Lockstep left right (step >>= next) := by
  intro state other alike
  rw [StateT.run_bind, StateT.run_bind]
  refine (first state other alike).bind ?_
  rintro ⟨value, state⟩ ⟨_, other⟩ ⟨rfl, alike⟩
  exact continues value state other alike

/-- A step looks up what does not depend on the fault that tokens tell of. -/
theorem of_get {next : State → Compose α}
    (same : ∀ state other, State.Alike left right state other → next state = next other)
    (continues : ∀ state, Lockstep left right (next state)) :
    Lockstep left right (get >>= next) := by
  intro state other alike
  rw [StateT.run_bind, StateT.run_bind, StateT.run_get, StateT.run_get, pure_bind, pure_bind,
    same state other alike]
  exact continues _ state other alike

theorem ite {test : Prop} [Decidable test] {positive negative : Compose α}
    (first : Lockstep left right positive) (second : Lockstep left right negative) :
    Lockstep left right (if test then positive else negative) := by
  split
  next => exact first
  next => exact second

end Lockstep

theorem lockstep_peek : Lockstep left right peek := by
  intro state other alike
  have next : Token.Alike left right (state.tokens.headD .streamEnd)
      (other.tokens.headD .streamEnd) := by
    have tokens := alike.tokens
    generalize state.tokens = first at tokens
    generalize other.tokens = second at tokens
    cases tokens with
    | nil => exact .readable nofun
    | cons head rest => exact head
  unfold peek
  rw [StateT.run_bind, StateT.run_bind, StateT.run_get, StateT.run_get, pure_bind, pure_bind]
  dsimp only
  generalize state.tokens.headD .streamEnd = first at next
  generalize other.tokens.headD .streamEnd = second at next
  cases next with
  | told => exact .told
  | readable readable =>
      cases first with
      | unreadable fault => exact absurd rfl (readable fault)
      | _ => exact .ok ⟨rfl, alike⟩

theorem lockstep_advance : Lockstep left right advance :=
  .of_modify fun _ _ alike => ⟨List.forall₂_drop 1 alike.tokens, alike.handles, alike.anchors⟩

theorem lockstep_isNext (enders : List Token) : Lockstep left right (isNext enders) :=
  lockstep_peek.bind fun _ => .of_pure _

theorem lockstep_expect (token : Token) : Lockstep left right (expect token) :=
  lockstep_peek.bind fun _ => .ite lockstep_advance .malformed

theorem lockstep_aliased (name : List Char) : Lockstep left right (aliased name) := by
  refine .of_get (fun _ _ alike => by rw [alike.anchors]) fun state => ?_
  split
  next => exact .of_pure _
  next => exact .malformed

theorem lockstep_openAnchor (name : List Char) : Lockstep left right (openAnchor name) := by
  refine .of_get (fun _ _ alike => by rw [alike.anchors]) fun state => ?_
  refine .ite .malformed (.of_modify fun _ _ alike => ⟨alike.tokens, alike.handles, ?_⟩)
  rw [alike.anchors]

theorem lockstep_closeAnchor (name : List Char) (node : Node) :
    Lockstep left right (closeAnchor name node) := by
  refine .of_modify fun _ _ alike => ⟨alike.tokens, alike.handles, ?_⟩
  rw [alike.anchors]

theorem lockstep_tagName (raw : RawTag) : Lockstep left right (tagName raw) := by
  unfold tagName
  split
  next => exact .of_pure _
  next handle _ =>
    refine .of_get (fun _ _ alike => by rw [alike.handles]) fun state => ?_
    split
    next => exact .of_pure _
    next => exact .malformed

theorem lockstep_readTag : Lockstep left right readTag := by
  refine lockstep_peek.bind fun token => ?_
  split
  next => exact lockstep_advance.bind fun _ => .of_pure _
  next => exact .of_pure _

theorem lockstep_readAnchor : Lockstep left right readAnchor := by
  refine lockstep_peek.bind fun token => ?_
  split
  next => exact lockstep_advance.bind fun _ => .of_pure _
  next => exact .of_pure _

theorem lockstep_properties : Lockstep left right properties := by
  refine lockstep_readAnchor.bind fun first => lockstep_readTag.bind fun raw => ?_
  cases raw with
  | none =>
      exact .ite (lockstep_readAnchor.bind fun _ => .of_pure _) (.of_pure _)
  | some raw =>
      refine .ite (lockstep_readAnchor.bind fun _ => ?_) ((Lockstep.of_pure first).bind fun _ => ?_)
      · exact (lockstep_tagName raw).bind fun _ => .of_pure _
      · exact (lockstep_tagName raw).bind fun _ => .of_pure _

/-- The composition of nodes of all kinds, as deep as the fuel allows, goes in step. -/
structure Composes (left right : Fault) (fuel : Nat) : Prop where
  node : ∀ inBlock unindented, Lockstep left right (compose inBlock unindented fuel)
  content : ∀ inBlock unindented given,
    Lockstep left right (composeContent inBlock unindented given fuel)
  optional : ∀ enders inBlock unindented,
    Lockstep left right (composeUnless enders inBlock unindented fuel)
  items : Lockstep left right (composeItems fuel)
  unindented : Lockstep left right (composeUnindented fuel)
  value : ∀ enders inBlock, Lockstep left right (composeValue enders inBlock fuel)
  entries : Lockstep left right (composeEntries fuel)
  flowItems : ∀ first, Lockstep left right (composeFlowItems first fuel)
  flowEntries : ∀ first, Lockstep left right (composeFlowEntries first fuel)

namespace Composes

variable {fuel : Nat}

theorem node_succ (inner : Composes left right fuel) (inBlock unindented : Bool) :
    Lockstep left right (compose inBlock unindented (fuel + 1)) := by
  unfold compose
  refine lockstep_peek.bind fun token => ?_
  split
  next => exact lockstep_advance.bind fun _ => lockstep_aliased _
  next =>
    refine lockstep_properties.bind fun given => ?_
    cases given.anchor with
    | none => exact (inner.content _ _ _).bind fun _ => .of_pure _
    | some name =>
        refine (lockstep_openAnchor name).bind fun _ => (inner.content _ _ _).bind fun node => ?_
        exact (lockstep_closeAnchor name node).bind fun _ => .of_pure _

theorem content_succ (inner : Composes left right fuel) (inBlock unindented : Bool)
    (given : Properties) :
    Lockstep left right (composeContent inBlock unindented given (fuel + 1)) := by
  unfold composeContent
  refine lockstep_peek.bind fun token => ?_
  split
  next => exact lockstep_advance.bind fun _ => .of_pure _
  next => exact lockstep_advance.bind fun _ => (inner.flowItems true).bind fun _ => .of_pure _
  next => exact lockstep_advance.bind fun _ => (inner.flowEntries true).bind fun _ => .of_pure _
  next =>
    refine .ite (inner.unindented.bind fun _ => .of_pure _) ?_
    refine .ite (lockstep_advance.bind fun _ => inner.items.bind fun _ => .of_pure _) ?_
    refine .ite (lockstep_advance.bind fun _ => inner.entries.bind fun _ => .of_pure _) ?_
    exact .ite (.of_pure _) .malformed

theorem optional_succ (inner : Composes left right fuel) (enders : List Token)
    (inBlock unindented : Bool) :
    Lockstep left right (composeUnless enders inBlock unindented (fuel + 1)) := by
  unfold composeUnless
  exact (lockstep_isNext enders).bind fun _ => .ite (.of_pure _) (inner.node _ _)

theorem items_succ (inner : Composes left right fuel) :
    Lockstep left right (composeItems (fuel + 1)) := by
  unfold composeItems
  refine lockstep_peek.bind fun _ => .ite ?_ ?_
  · refine lockstep_advance.bind fun _ => (inner.optional _ _ _).bind fun _ => ?_
    exact inner.items.bind fun _ => .of_pure _
  · exact (lockstep_expect _).bind fun _ => .of_pure _

theorem unindented_succ (inner : Composes left right fuel) :
    Lockstep left right (composeUnindented (fuel + 1)) := by
  unfold composeUnindented
  refine lockstep_peek.bind fun _ => .ite ?_ (.of_pure _)
  refine lockstep_advance.bind fun _ => (inner.optional _ _ _).bind fun _ => ?_
  exact inner.unindented.bind fun _ => .of_pure _

theorem value_succ (inner : Composes left right fuel) (enders : List Token) (inBlock : Bool) :
    Lockstep left right (composeValue enders inBlock (fuel + 1)) := by
  unfold composeValue
  refine lockstep_peek.bind fun _ => .ite ?_ (.of_pure _)
  exact lockstep_advance.bind fun _ => inner.optional _ _ _

theorem entries_succ (inner : Composes left right fuel) :
    Lockstep left right (composeEntries (fuel + 1)) := by
  unfold composeEntries
  refine lockstep_peek.bind fun _ => .ite ?_ ?_
  · refine lockstep_advance.bind fun _ => (inner.optional _ _ _).bind fun _ => ?_
    exact (inner.value _ _).bind fun _ => inner.entries.bind fun _ => .of_pure _
  · exact (lockstep_expect _).bind fun _ => .of_pure _

/-- What stands in front of an item or entry of a flow collection is its comma, unless it is the
first. -/
theorem comma (first : Bool) {rest : Unit → Compose α}
    (follows : ∀ done, Lockstep left right (rest done)) :
    Lockstep left right (if !first then expect .flowEntry >>= rest else rest ()) :=
  .ite ((lockstep_expect _).bind follows) (follows ())

theorem flowItems_succ (inner : Composes left right fuel) (first : Bool) :
    Lockstep left right (composeFlowItems first (fuel + 1)) := by
  unfold composeFlowItems
  refine lockstep_peek.bind fun _ => .ite (lockstep_advance.bind fun _ => .of_pure _) ?_
  refine comma first fun _ => lockstep_peek.bind fun token => ?_
  split
  next => exact lockstep_advance.bind fun _ => .of_pure _
  next =>
    refine lockstep_advance.bind fun _ => (inner.optional _ _ _).bind fun _ => ?_
    exact (inner.value _ _).bind fun _ => (inner.flowItems false).bind fun _ => .of_pure _
  next => exact (inner.node _ _).bind fun _ => (inner.flowItems false).bind fun _ => .of_pure _

theorem flowEntries_succ (inner : Composes left right fuel) (first : Bool) :
    Lockstep left right (composeFlowEntries first (fuel + 1)) := by
  unfold composeFlowEntries
  refine lockstep_peek.bind fun _ => .ite (lockstep_advance.bind fun _ => .of_pure _) ?_
  refine comma first fun _ => lockstep_peek.bind fun token => ?_
  split
  next => exact lockstep_advance.bind fun _ => .of_pure _
  next =>
    refine lockstep_advance.bind fun _ => (inner.optional _ _ _).bind fun _ => ?_
    exact (inner.value _ _).bind fun _ => (inner.flowEntries false).bind fun _ => .of_pure _
  next => exact (inner.node _ _).bind fun _ => (inner.flowEntries false).bind fun _ => .of_pure _

theorem zero : Composes left right 0 where
  node _ _ := .malformed
  content _ _ _ := .malformed
  optional _ _ _ := .malformed
  items := .malformed
  unindented := .malformed
  value _ _ := .malformed
  entries := .malformed
  flowItems _ := .malformed
  flowEntries _ := .malformed

theorem succ (inner : Composes left right fuel) : Composes left right (fuel + 1) where
  node := inner.node_succ
  content := inner.content_succ
  optional := inner.optional_succ
  items := inner.items_succ
  unindented := inner.unindented_succ
  value := inner.value_succ
  entries := inner.entries_succ
  flowItems := inner.flowItems_succ
  flowEntries := inner.flowEntries_succ

end Composes

/-- The fuel is all that the kinds of nodes share, so the induction is on it. -/
theorem composes (left right : Fault) (fuel : Nat) : Composes left right fuel := by
  induction fuel with
  | zero => exact .zero
  | succ fuel ih => exact ih.succ

theorem lockstep_composeDocument (explicit : Bool) :
    Lockstep left right (composeDocument explicit) := by
  refine .of_get (fun _ _ alike => by rw [alike.tokens.length_eq]) fun state => ?_
  exact lockstep_peek.bind fun _ => .ite (.of_pure _) ((composes left right _).node _ _)

theorem forall₂_dropWhile {tokens others : List Token}
    (alike : List.Forall₂ (Token.Alike left right) tokens others) :
    List.Forall₂ (Token.Alike left right) (tokens.dropWhile (· == .documentEnd))
      (others.dropWhile (· == .documentEnd)) := by
  induction alike with
  | nil => exact .nil
  | cons first rest ih =>
      cases first with
      | told => exact .cons .told rest
      | readable readable =>
          rw [List.dropWhile_cons, List.dropWhile_cons]
          split
          next => exact ih
          next => exact .cons (.readable readable) rest

theorem lockstep_expectEnd : Lockstep left right expectEnd := by
  refine Lockstep.bind (.of_modify fun state other alike => ?_) fun _ => lockstep_expect _
  exact ⟨forall₂_dropWhile alike.tokens, alike.handles, alike.anchors⟩

/-! ## Whole documents -/

variable {tokens others : List Token}

/-- The directives in front of a document are followed in step. -/
theorem agree_followDirectives (hasVersion : Bool) (handles : List (List Char × List Char))
    (alike : List.Forall₂ (Token.Alike left right) tokens others) :
    Agree left right
      (fun read another => read.1 = another.1 ∧
        List.Forall₂ (Token.Alike left right) read.2 another.2)
      (followDirectives hasVersion handles tokens)
      (followDirectives hasVersion handles others) := by
  induction alike generalizing hasVersion handles with
  | nil => exact .ok ⟨rfl, .nil⟩
  | @cons token _ _ _ first rest ih =>
      cases first with
      | told => exact .told
      | readable readable =>
          cases token with
          | directive value =>
              cases value with
              | version major =>
                  simp only [followDirectives]
                  split
                  next => exact .malformed
                  next => exact ih true handles
              | tag handle start =>
                  simp only [followDirectives]
                  split
                  next => exact .malformed
                  next => exact ih hasVersion _
              | unknown => exact ih hasVersion handles
          | unreadable fault => exact absurd rfl (readable fault)
          | _ => exact .ok ⟨rfl, .cons (.readable readable) rest⟩

/-- Composes the one document of a text. -/
def composeText (explicit : Bool) : Compose (Option Node) := do
  let node ← composeDocument explicit
  expectEnd
  return some node

theorem lockstep_composeText (explicit : Bool) : Lockstep left right (composeText explicit) :=
  (lockstep_composeDocument explicit).bind fun _ => lockstep_expectEnd.bind fun _ => .of_pure _

/-- The document that tokens form, behind its start. -/
def documentOf (explicit : Bool) (handles : List (List Char × List Char)) (tokens : List Token) :
    Except Fault (Option Node) :=
  (composeText explicit).run' ⟨tokens, handles ++ defaultHandles, []⟩

theorem agree_documentOf (explicit : Bool) (handles : List (List Char × List Char))
    (alike : List.Forall₂ (Token.Alike left right) tokens others) :
    Agree left right Eq (documentOf explicit handles tokens)
      (documentOf explicit handles others) := by
  have lockstep := lockstep_composeText explicit ⟨tokens, handles ++ defaultHandles, []⟩
    ⟨others, handles ++ defaultHandles, []⟩ ⟨alike, rfl, rfl⟩
  exact lockstep.map fun _ _ same => same.1

/-- The document that tokens form which begin with a readable one and are more than the end of the
text. -/
theorem ofTokens?_cons {first : Token} {rest : List Token}
    (readable : ∀ fault, .unreadable fault ≠ first) (more : first :: rest ≠ [.streamEnd]) :
    ofTokens? (first :: rest) =
      if isAnnounced first then
        followDirectives false [] (first :: rest) >>= fun read =>
          match read with
          | (handles, .documentStart :: rest) => documentOf true handles rest
          | _ => .error .malformed
      else documentOf false [] (first :: rest) := by
  unfold ofTokens?
  split
  next same => exact absurd same more
  next fault _ same => exact absurd (List.cons.inj same).1.symm (readable fault)
  next same =>
    cases same
    rfl
  next same => cases same

/-- Tokens that differ only in the fault that they tell of form the same node, or none for the same
reason, which may be this fault. -/
theorem agree_ofTokens (alike : List.Forall₂ (Token.Alike left right) tokens others) :
    Agree left right Eq (ofTokens? tokens) (ofTokens? others) := by
  cases alike with
  | nil => exact .malformed
  | @cons first _ rest others head alike =>
      cases head with
      | told => exact .told
      | readable readable =>
          by_cases ended : first = .streamEnd ∧ rest = []
          · obtain ⟨rfl, rfl⟩ := ended
            cases alike
            exact .ok rfl
          · have more : first :: rest ≠ [.streamEnd] := by simpa using ended
            have otherMore : first :: others ≠ [.streamEnd] := by
              have lengths := alike.length_eq
              intro same
              obtain ⟨rfl, rfl⟩ := List.cons.inj same
              exact ended ⟨rfl, List.length_eq_zero_iff.1 lengths⟩
            have whole := List.Forall₂.cons (Token.Alike.readable readable) alike
            rw [ofTokens?_cons readable more, ofTokens?_cons readable otherMore]
            split
            next =>
              refine (agree_followDirectives false [] whole).bind ?_
              rintro ⟨handles, left⟩ ⟨_, right⟩ ⟨rfl, alike⟩
              cases alike with
              | nil => exact .malformed
              | @cons token _ _ _ head alike =>
                  cases head with
                  | told => exact .malformed
                  | readable readable =>
                      cases token with
                      | documentStart => exact agree_documentOf true handles alike
                      | _ => exact .malformed
            next => exact agree_documentOf false [] whole

/-! ## Tokens that break off -/

theorem alike_of_readable (readable : Token.Readable tokens) :
    List.Forall₂ (Token.Alike left right) tokens tokens := by
  rw [List.forall₂_same]
  exact fun token member => .readable fun fault same => readable fault (same ▸ member)

theorem alike_brokenOff {front : List Token} (readable : Token.Readable front) :
    List.Forall₂ (Token.Alike left right) (front ++ [.unreadable left])
      (front ++ [.unreadable right]) :=
  List.rel_append (alike_of_readable readable) (.cons .told .nil)

/-- The composition of nodes takes all of these tokens and asks for another one: where this one
cannot be read, that is told. -/
def Asks (tokens : List Token) : Prop :=
  ∀ fault, ofTokens? (tokens ++ [.unreadable fault]) = .error fault

theorem asks_of_failed {front : List Token} {fault : Fault} (readable : Token.Readable front)
    (wellFormed : fault ≠ .malformed)
    (failed : ofTokens? (front ++ [.unreadable fault]) = .error fault) : Asks front := by
  intro other
  have agree : Agree fault other Eq _ _ := agree_ofTokens (alike_brokenOff readable)
  rw [failed] at agree
  generalize ofTokens? (front ++ [.unreadable other]) = outcome at agree
  cases agree with
  | malformed => exact absurd rfl wellFormed
  | told => rfl

theorem fault_of_alike {fault other : Fault}
    (alike : List.Forall₂ (Token.Alike other other) tokens tokens)
    (failed : ofTokens? tokens = .error fault) : fault = .malformed ∨ fault = other := by
  have agree := agree_ofTokens alike
  rw [failed] at agree
  cases agree with
  | malformed => exact .inl rfl
  | told => exact .inr rfl

/-- A text that is not malformed forms no node exactly if its tokens break off where another one is
asked for. -/
theorem ofTokens_scan_eq_error_iff {text : List Char} {fault : Fault}
    (wellFormed : fault ≠ .malformed) :
    ofTokens? (Token.scan text) = .error fault ↔
      ∃ front, Token.BreaksOff text front fault ∧ Asks front := by
  constructor
  · intro failed
    have scanned := Token.scanned_scan text
    generalize Token.scan text = tokens at scanned failed
    cases scanned with
    | whole readable =>
        exact absurd ((fault_of_alike (alike_of_readable readable) failed).elim id id) wellFormed
    | malformed readable =>
        exact absurd ((fault_of_alike (alike_brokenOff readable) failed).elim id id) wellFormed
    | breaksOff readable breaks =>
        obtain rfl := (fault_of_alike (alike_brokenOff readable) failed).resolve_left wellFormed
        exact ⟨_, breaks, asks_of_failed readable wellFormed failed⟩
  · rintro ⟨front, breaks, asks⟩
    rw [breaks.scan]
    exact asks fault

end Node

end RouteTypes.Yaml
