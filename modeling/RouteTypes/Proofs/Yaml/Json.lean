import RouteTypes.Json.Reader
import RouteTypes.Proofs.Yaml.Flow
import RouteTypes.Proofs.Yaml.Scanning

/-!
# JSON texts as YAML

A portable JSON text is a flow collection of YAML. The readers of both formats go through it side by
side: what the reader of JSON takes from the front of the text becomes tokens (`Scans`) that form a
node with the value that was read (`Agrees`). So the whole text has one value (`read_of_portable`).
-/

namespace RouteTypes.Yaml

open Json (IsGap Portable skipSpace)
open Node (Forms FormsItems FormsEntries StandsFor EntryStandsFor)
open Token.State (Inside Reaches)

variable {text rest : List Char} {value : Value} {tokens : List Token} {depth fuel : Nat}

/-! ## What both readers take from a text -/

/-- Inside of `outer` flow collections the text up to its rest is divided into the tokens, and the
rest stands inside of `inner` ones. The front of the text may be a key where one is required. -/
def Scans (key : Bool) (outer inner : Nat) (text : List Char) (tokens : List Token)
    (rest : List Char) : Prop :=
  ∀ before (state : Token.State), state.Inside outer before text →
    (key = true → state.keyAllowed = true) →
    ∃ next, Reaches state next ∧ next.Inside inner (tokens.reverse ++ before) rest

/-- The text behind the first mark of a flow collection, or behind one of its commas, is divided
into the tokens up to the end of the collection, which stands inside of so many other ones. -/
abbrev ScansInner (depth : Nat) (text : List Char) (tokens : List Token) (rest : List Char) :
    Prop :=
  Scans true (depth + 1) depth text tokens rest

/-- The text up to its rest is a value of YAML, inside of so many flow collections or more. -/
structure Agrees (least : Nat) (text : List Char) (value : Value) (rest : List Char) : Prop where
  left : Portable rest
  same : ∃ tokens node, Forms tokens node ∧ StandsFor node value ∧
    ∀ depth, least ≤ depth → Scans false depth depth text tokens (skipSpace rest)

/-- The text up to its rest holds the last items of a flow sequence. -/
structure AgreesItems (text : List Char) (values : List Value) (rest : List Char) : Prop where
  left : Portable rest
  same : ∃ tokens nodes, (∀ first, FormsItems first (Node.separators first ++ tokens) nodes) ∧
    List.Forall₂ StandsFor nodes values ∧ ∀ depth, ScansInner depth text tokens rest

/-- The text up to its rest is a key and its value. -/
structure AgreesEntry (text : List Char) (pair : RouteTypes.Scalar × Value) (rest : List Char) :
    Prop where
  left : Portable rest
  same : ∃ name tokens key node, Forms name key ∧ Forms tokens node ∧
    EntryStandsFor (key, node) pair ∧ ∀ depth,
      Scans true (depth + 1) (depth + 1) text (Node.keyTokens name ++ tokens) (skipSpace rest)

/-- The text up to its rest holds the last entries of a flow mapping. -/
structure AgreesEntries (text : List Char) (pairs : Entries) (rest : List Char) : Prop where
  left : Portable rest
  same : ∃ tokens entries,
    (∀ first, FormsEntries first (Node.separators first ++ tokens) entries) ∧
    List.Forall₂ EntryStandsFor entries pairs ∧ ∀ depth, ScansInner depth text tokens rest

theorem Agrees.inner (agrees : Agrees 0 text value rest) : Agrees 1 text value rest := by
  obtain ⟨left, tokens, node, forms, stands, scans⟩ := agrees
  exact ⟨left, tokens, node, forms, stands, fun depth _ => scans depth (Nat.zero_le _)⟩

/-! ## Scalars -/

/-- What stands behind a string is portable. -/
theorem portable_afterString {points : List Point} (isQuoted : Lexeme.IsQuoted text points rest)
    (portable : Portable ('"' :: text)) : Portable rest := by
  have left := (Json.portable_string portable).2
  rwa [isQuoted.split] at left

theorem agrees_string {name : RouteTypes.Scalar}
    (success : Json.readString text = .ok (name, rest)) (portable : Portable ('"' :: text)) :
    Agrees 1 ('"' :: text) (.scalar name) rest := by
  obtain ⟨points, rfl, isQuoted⟩ :=
    Lexeme.isQuoted_of_readString success (Json.portable_string portable).1
  have left := portable_afterString isQuoted portable
  have stands : StandsFor (.scalar .text points) (.scalar (.ofPoints points)) :=
    Node.standsFor_scalar rfl
  refine ⟨left, _, _, .scalar points false, stands, fun depth least => ?_⟩
  obtain ⟨depth, rfl⟩ := Nat.exists_eq_add_of_le' least
  intro before state inside _
  obtain ⟨_, next, _, advances, isNext, _⟩ := inside.quotes isQuoted
  exact ⟨next, .single advances, isNext.skipSpace left⟩

/-- A word or number ends in front of white space and marks. -/
theorem Closes.stops (closes : Closes (skipSpace text)) :
    ∀ c ∈ text.head?, Json.isWordChar c = false := by
  intro c first
  obtain ⟨later, rfl⟩ := List.head?_eq_some_iff.1 first
  by_cases space : Json.isSpace c
  · have known : c = ' ' ∨ c = '\t' ∨ c = '\n' ∨ c = '\r' := by
      simpa [Json.isSpace, or_assoc] using space
    rcases known with rfl | rfl | rfl | rfl <;> decide
  · obtain ⟨mark, more, same, isMark⟩ := closes
    rw [skipSpace, List.dropWhile_cons_of_neg space] at same
    cases same
    exact (by decide : ∀ c ∈ [',', ']', '\x7d'], Json.isWordChar c = false) c isMark

theorem agrees_literal {scalar : RouteTypes.Scalar}
    (success : Json.readScalar text = .ok (scalar, rest)) (portable : Portable text)
    (closes : Closes (skipSpace rest)) : Agrees 1 text (.scalar scalar) rest := by
  obtain ⟨literal, rfl, isLiteral⟩ := Json.literal_of_readScalar success
  obtain ⟨isWord, left⟩ := Json.portable_literal isLiteral closes.stops portable
  refine ⟨left, _, _, .scalar (literal.map .char) true,
    Node.standsFor_scalar (Scalar.value_of_literal isLiteral isWord), fun depth least => ?_⟩
  obtain ⟨depth, rfl⟩ := Nat.exists_eq_add_of_le' least
  intro before state inside _
  obtain ⟨_, gap, isGap, same⟩ := Json.portable_skipSpace left
  rw [same] at inside
  obtain ⟨next, advances, isNext⟩ := inside.literal isLiteral isGap closes
  exact ⟨next, .single advances, isNext⟩

/-! ## The parts of a collection -/

variable {key : Bool} {outer inner : Nat} {middle : List Char} {others : List Token}

theorem Scans.keyed (scans : Scans false outer inner text tokens rest) :
    Scans key outer inner text tokens rest :=
  fun before state inside _ => scans before state inside nofun

theorem Scans.append {deeper : Nat} (first : Scans key outer deeper text tokens middle)
    (second : Scans false deeper inner middle others rest) :
    Scans key outer inner text (tokens ++ others) rest := by
  intro before state inside allowed
  obtain ⟨between, reaches, isBetween⟩ := first before state inside allowed
  obtain ⟨next, further, isNext⟩ := second _ between isBetween nofun
  refine ⟨next, reaches.trans further, ?_⟩
  rw [List.reverse_append, List.append_assoc]
  exact isNext

/-- A mark behind which a key may start. -/
theorem Scans.cons {deeper : Nat} {token : Token} (portable : Portable middle)
    (mark : ∀ {before} {state : Token.State}, state.Inside outer before text →
      ∃ next, state.Advances next ∧ next.Inside deeper (token :: before) middle ∧
        next.keyAllowed = true)
    (behind : Scans true deeper inner (skipSpace middle) tokens rest) :
    Scans false outer inner text (token :: tokens) rest := by
  intro before state inside _
  obtain ⟨between, advances, isBetween, allowed⟩ := mark inside
  obtain ⟨next, further, isNext⟩ :=
    behind _ between (isBetween.skipSpace portable) fun _ => allowed
  refine ⟨next, .head advances further, ?_⟩
  rw [List.reverse_cons, List.append_assoc]
  exact isNext

theorem scans_stop (kind : FlowKind) (depth : Nat) (rest : List Char) :
    Scans false (depth + 1) depth (kind.closing :: rest) [kind.stop] rest := by
  intro before state inside _
  obtain ⟨next, advances, isNext⟩ := inside.closes kind
  exact ⟨next, .single advances, isNext⟩

theorem scans_comma (portable : Portable text)
    (behind : ScansInner depth (skipSpace text) tokens rest) :
    Scans false (depth + 1) depth (',' :: text) (.flowEntry :: tokens) rest :=
  .cons portable Token.State.Inside.comma behind

theorem scans_start (kind : FlowKind) (portable : Portable text)
    (behind : ScansInner depth (skipSpace text) tokens rest) :
    Scans false depth depth (kind.opening :: text) (kind.start :: tokens) rest :=
  .cons portable (Token.State.Inside.opens kind) behind

theorem Scans.skipSpace (scans : Scans key outer inner text tokens rest)
    (portable : Portable rest) :
    Scans key outer inner text tokens (skipSpace rest) := by
  intro before state inside allowed
  obtain ⟨next, reaches, isNext⟩ := scans before state inside allowed
  exact ⟨next, reaches, isNext.skipSpace portable⟩

/-- A name with its colon is a key. -/
theorem scans_name {points : List Point} {after : List Char}
    (isQuoted : Lexeme.IsQuoted text points rest) (portable : Portable ('"' :: text))
    (colon : Json.skipSpace rest = ':' :: after) (depth : Nat) :
    Scans true (depth + 1) (depth + 1) ('"' :: text)
      (Node.keyTokens [.scalar points false]) (Json.skipSpace after) := by
  have left := portable_afterString isQuoted portable
  have portableAfter := Json.portable_behind left colon rfl
  obtain ⟨_, gap, isGap, same⟩ := Json.portable_skipSpace left
  rw [colon] at same
  subst same
  intro before state inside allowed
  obtain ⟨next, reaches, isNext⟩ := inside.name (allowed rfl) isQuoted isGap
    (Json.portable_name portable isGap isQuoted.split)
  exact ⟨next, reaches, isNext.skipSpace portableAfter⟩

/-! ## Items and entries -/

variable {values : List Value} {pairs : Entries} {after : List Char}

theorem agreesItems_last (item : Agrees 1 text value rest) (ends : skipSpace rest = ']' :: after) :
    AgreesItems text [value] after := by
  obtain ⟨left, tokens, node, forms, stands, scans⟩ := item
  rw [ends] at scans
  refine ⟨Json.portable_behind left ends rfl, tokens ++ [.flowSequenceEnd], [node], ?_, ?_, ?_⟩
  · intro first
    rw [← List.append_assoc]
    exact Node.formsItems_cons first forms (Node.formsItems_nil false)
  · exact .cons stands .nil
  · intro depth
    exact (scans (depth + 1) (Nat.le_add_left 1 depth)).keyed.append
      (scans_stop .sequence depth after)

theorem agreesItems_cons (item : Agrees 1 text value rest) {more : List Char}
    (goesOn : skipSpace rest = ',' :: more) (others : AgreesItems (skipSpace more) values after) :
    AgreesItems text (value :: values) after := by
  obtain ⟨leftItem, tokens, node, forms, stands, scans⟩ := item
  obtain ⟨left, behind, nodes, formsBehind, standsBehind, scansBehind⟩ := others
  rw [goesOn] at scans
  refine ⟨left, tokens ++ .flowEntry :: behind, node :: nodes, ?_, ?_, ?_⟩
  · intro first
    rw [← List.append_assoc]
    exact Node.formsItems_cons first forms (formsBehind false)
  · exact .cons stands standsBehind
  · intro depth
    exact (scans (depth + 1) (Nat.le_add_left 1 depth)).keyed.append
      (scans_comma (Json.portable_behind leftItem goesOn rfl) (scansBehind depth))

theorem agreesEntry {points : List Point} {more : List Char}
    (isQuoted : Lexeme.IsQuoted text points middle) (portable : Portable ('"' :: text))
    (colon : skipSpace middle = ':' :: more) (item : Agrees 1 (skipSpace more) value rest) :
    AgreesEntry ('"' :: text) (.ofPoints points, value) rest := by
  obtain ⟨left, tokens, node, forms, stands, scans⟩ := item
  refine ⟨left, [.scalar points false], tokens, _, node, .scalar points false, forms,
    ⟨⟨points, rfl, rfl⟩, stands⟩, fun depth => ?_⟩
  exact (scans_name isQuoted portable colon depth).append
    (scans (depth + 1) (Nat.le_add_left 1 depth))

theorem agreesEntries_last {pair : RouteTypes.Scalar × Value} (entry : AgreesEntry text pair rest)
    (ends : skipSpace rest = '\x7d' :: after) : AgreesEntries text [pair] after := by
  obtain ⟨left, name, tokens, key, node, isName, forms, stands, scans⟩ := entry
  rw [ends] at scans
  refine ⟨Json.portable_behind left ends rfl,
    Node.keyTokens name ++ tokens ++ [.flowMappingEnd], [(key, node)], ?_, ?_, ?_⟩
  · intro first
    rw [← List.append_assoc]
    exact Node.formsEntries_cons first isName forms (Node.formsEntries_nil false)
  · exact .cons stands .nil
  · exact fun depth => (scans depth).append (scans_stop .mapping depth after)

theorem agreesEntries_cons {pair : RouteTypes.Scalar × Value} (entry : AgreesEntry text pair rest)
    {more : List Char} (goesOn : skipSpace rest = ',' :: more)
    (others : AgreesEntries (skipSpace more) pairs after) :
    AgreesEntries text (pair :: pairs) after := by
  obtain ⟨leftEntry, name, tokens, key, node, isName, forms, stands, scans⟩ := entry
  obtain ⟨left, behind, entries, formsBehind, standsBehind, scansBehind⟩ := others
  rw [goesOn] at scans
  refine ⟨left, Node.keyTokens name ++ tokens ++ .flowEntry :: behind, (key, node) :: entries,
    ?_, ?_, ?_⟩
  · intro first
    rw [← List.append_assoc]
    exact Node.formsEntries_cons first isName forms (formsBehind false)
  · exact .cons stands standsBehind
  · intro depth
    exact (scans depth).append
      (scans_comma (Json.portable_behind leftEntry goesOn rfl) (scansBehind depth))

/-! ## Collections -/

theorem agrees_list (portable : Portable text) (items : AgreesItems (skipSpace text) values rest) :
    Agrees 0 ('[' :: text) (.list values) rest := by
  obtain ⟨left, tokens, nodes, forms, stands, scans⟩ := items
  refine ⟨left, .flowSequence :: tokens, .sequence .sequence nodes, .sequence (forms true),
    Node.standsFor_sequence stands, fun depth _ => ?_⟩
  exact (scans_start .sequence portable (scans depth)).skipSpace left

theorem agrees_mapping (portable : Portable text)
    (entries : AgreesEntries (skipSpace text) pairs rest) :
    Agrees 0 ('\x7b' :: text) (.mapping (Entries.putAll [] pairs)) rest := by
  obtain ⟨left, tokens, nodes, forms, stands, scans⟩ := entries
  refine ⟨left, .flowMapping :: tokens, .mapping .mapping nodes, .mapping (forms true),
    Node.standsFor_mapping stands, fun depth _ => ?_⟩
  exact (scans_start .mapping portable (scans depth)).skipSpace left

theorem agrees_emptyList (portable : Portable text) (ends : skipSpace text = ']' :: rest) :
    Agrees 0 ('[' :: text) (.list []) rest := by
  have left := Json.portable_behind portable ends rfl
  refine ⟨left, [.flowSequence, .flowSequenceEnd], .sequence .sequence [],
    .sequence (Node.formsItems_nil true), Node.standsFor_sequence .nil, fun depth _ => ?_⟩
  have inner : ScansInner depth (skipSpace text) [.flowSequenceEnd] rest := by
    rw [ends]
    exact (scans_stop .sequence depth rest).keyed
  exact (scans_start .sequence portable inner).skipSpace left

theorem agrees_emptyMapping (portable : Portable text) (ends : skipSpace text = '\x7d' :: rest) :
    Agrees 0 ('\x7b' :: text) (.mapping []) rest := by
  have left := Json.portable_behind portable ends rfl
  refine ⟨left, [.flowMapping, .flowMappingEnd], .mapping .mapping [],
    .mapping (Node.formsEntries_nil true), Node.standsFor_mapping .nil, fun depth _ => ?_⟩
  have inner : ScansInner depth (skipSpace text) [.flowMappingEnd] rest := by
    rw [ends]
    exact (scans_stop .mapping depth rest).keyed
  exact (scans_start .mapping portable inner).skipSpace left

/-! ## Whole texts -/

/-- With so much fuel, what the readers of values, members and items take from a portable text is
the same in YAML. -/
structure ReadsPortable (fuel : Nat) : Prop where
  collection {text rest : List Char} {value : Value}
    (success : Json.readValue fuel text = .ok (value, rest)) (portable : Portable text)
    (isCollection : ∀ scalar, value ≠ .scalar scalar) : Agrees 0 text value rest
  part {text rest : List Char} {value : Value}
    (success : Json.readValue fuel text = .ok (value, rest)) (portable : Portable text)
    (closes : Closes (skipSpace rest)) : Agrees 1 text value rest
  members {before entries : Entries} {text rest : List Char}
    (success : Json.readMembers fuel before text = .ok (entries, rest)) (portable : Portable text) :
    ∃ pairs, entries = Entries.putAll before pairs ∧ AgreesEntries text pairs rest
  items {text rest : List Char} {values : List Value}
    (success : Json.readItems fuel text = .ok (values, rest)) (portable : Portable text) :
    AgreesItems text values rest

namespace ReadsPortable

theorem collection_succ (reads : ReadsPortable fuel)
    (success : Json.readValue (fuel + 1) text = .ok (value, rest)) (portable : Portable text)
    (isCollection : ∀ scalar, value ≠ .scalar scalar) : Agrees 0 text value rest := by
  rw [Json.readValue.eq_def] at success
  dsimp only at success
  split at success
  next =>
    obtain ⟨read, _, ended⟩ := except_bind_eq_ok.1 success
    cases ended
    exact absurd rfl (isCollection _)
  next =>
    have inside := (Json.portable_mark rfl).1 portable
    split at success
    next ends =>
      cases success
      exact agrees_emptyMapping inside ends
    next =>
      obtain ⟨⟨entries, after⟩, isEntries, ended⟩ := except_bind_eq_ok.1 success
      cases ended
      obtain ⟨pairs, rfl, agrees⟩ :=
        reads.members isEntries (Json.portable_skipSpace inside).1
      exact agrees_mapping inside agrees
  next =>
    have inside := (Json.portable_mark rfl).1 portable
    split at success
    next ends =>
      cases success
      exact agrees_emptyList inside ends
    next =>
      obtain ⟨⟨items, after⟩, isItems, ended⟩ := except_bind_eq_ok.1 success
      cases ended
      exact agrees_list inside (reads.items isItems (Json.portable_skipSpace inside).1)
  next =>
    obtain ⟨read, _, ended⟩ := except_bind_eq_ok.1 success
    cases ended
    exact absurd rfl (isCollection _)

/-- A scalar is no collection, and the reader of YAML needs to see where it ends. -/
theorem part_succ (reads : ReadsPortable fuel)
    (success : Json.readValue (fuel + 1) text = .ok (value, rest)) (portable : Portable text)
    (closes : Closes (skipSpace rest)) : Agrees 1 text value rest := by
  by_cases isScalar : ∃ scalar, value = .scalar scalar
  · obtain ⟨scalar, rfl⟩ := isScalar
    rw [Json.readValue.eq_def] at success
    dsimp only at success
    split at success
    next =>
      obtain ⟨⟨name, after⟩, isString, ended⟩ := except_bind_eq_ok.1 success
      cases ended
      exact agrees_string isString portable
    next =>
      split at success
      next => cases success
      next =>
        obtain ⟨read, _, ended⟩ := except_bind_eq_ok.1 success
        cases ended
    next =>
      split at success
      next => cases success
      next =>
        obtain ⟨read, _, ended⟩ := except_bind_eq_ok.1 success
        cases ended
    next =>
      obtain ⟨⟨read, after⟩, isScalar, ended⟩ := except_bind_eq_ok.1 success
      cases ended
      exact agrees_literal isScalar portable closes
  · refine (reads.collection_succ success portable fun scalar same => ?_).inner
    exact isScalar ⟨scalar, same⟩

theorem items_succ (reads : ReadsPortable fuel)
    (success : Json.readItems (fuel + 1) text = .ok (values, rest)) (portable : Portable text) :
    AgreesItems text values rest := by
  rw [Json.readItems.eq_def] at success
  dsimp only at success
  obtain ⟨⟨item, after⟩, isValue, success⟩ := except_bind_eq_ok.1 success
  split at success
  next left ends =>
    cases success
    exact agreesItems_last (reads.part isValue portable ⟨_, _, ends, by decide⟩) ends
  next left goesOn =>
    obtain ⟨⟨others, behind⟩, isItems, ended⟩ := except_bind_eq_ok.1 success
    cases ended
    have item := reads.part isValue portable ⟨_, _, goesOn, by decide⟩
    have more := Json.portable_behind item.left goesOn rfl
    exact agreesItems_cons item goesOn
      (reads.items isItems (Json.portable_skipSpace more).1)
  next => cases success

theorem members_succ (reads : ReadsPortable fuel) {before entries : Entries}
    (success : Json.readMembers (fuel + 1) before text = .ok (entries, rest))
    (portable : Portable text) :
    ∃ pairs, entries = Entries.putAll before pairs ∧ AgreesEntries text pairs rest := by
  rw [Json.readMembers.eq_def] at success
  dsimp only at success
  split at success
  next =>
    obtain ⟨⟨name, after⟩, isName, success⟩ := except_bind_eq_ok.1 success
    obtain ⟨points, rfl, isQuoted⟩ :=
      Lexeme.isQuoted_of_readString isName (Json.portable_string portable).1
    split at success
    next behind colon =>
      obtain ⟨⟨value, last⟩, isValue, success⟩ := except_bind_eq_ok.1 success
      have inside := (Json.portable_skipSpace
        (Json.portable_behind (portable_afterString isQuoted portable) colon rfl)).1
      split at success
      next ends =>
        cases success
        have item := reads.part isValue inside ⟨_, _, ends, by decide⟩
        exact ⟨[(.ofPoints points, value)], rfl,
          agreesEntries_last (agreesEntry isQuoted portable colon item) ends⟩
      next goesOn =>
        have item := reads.part isValue inside ⟨_, _, goesOn, by decide⟩
        have more := Json.portable_behind item.left goesOn rfl
        obtain ⟨pairs, rfl, agrees⟩ :=
          reads.members success (Json.portable_skipSpace more).1
        exact ⟨(.ofPoints points, value) :: pairs, rfl,
          agreesEntries_cons (agreesEntry isQuoted portable colon item) goesOn agrees⟩
      next => cases success
    next => cases success
  next => cases success

end ReadsPortable

/-- The induction is on the fuel that the readers share. -/
theorem readsPortable (fuel : Nat) : ReadsPortable fuel := by
  induction fuel with
  | zero =>
      constructor
      · intro text rest value success
        cases success
      · intro text rest value success
        cases success
      · intro before entries text rest success
        cases success
      · intro text rest values success
        cases success
  | succ fuel ih => exact ⟨ih.collection_succ, ih.part_succ, ih.members_succ, ih.items_succ⟩

/-- A portable text that is a list or a mapping of JSON is the same one in YAML. -/
theorem read_of_portable {text : String} {value : Value} (success : Json.read text = .ok value)
    (portable : Json.isPortable text.toList) (isCollection : ∀ scalar, value ≠ .scalar scalar) :
    read text = .ok value := by
  rw [Json.isPortable, Bool.and_eq_true] at portable
  obtain ⟨allowed, portable⟩ := portable
  rw [Json.read] at success
  cases whole : Json.readText text.toList with
  | error =>
      rw [whole] at success
      cases success
  | ok found =>
      rw [whole] at success
      cases success
      unfold Json.readText at whole
      split at whole
      next => cases whole
      next unmarked =>
        obtain ⟨⟨found, rest⟩, isValue, ended⟩ := except_bind_eq_ok.1 whole
        dsimp only at ended
        split at ended
        next ends =>
          cases ended
          have front := (Json.portable_skipSpace portable).1
          obtain ⟨_, tokens, node, forms, stands, scans⟩ :=
            (readsPortable _).collection isValue front isCollection
          have first : text.toList.head? ≠ some '\uFEFF' := by
            intro marked
            obtain ⟨later, same⟩ := List.head?_eq_some_iff.1 marked
            exact unmarked later same
          have start := (Token.State.inside_start first).skipSpace portable
          obtain ⟨next, reaches, isNext⟩ :=
            scans 0 (Nat.le_refl _) _ _ start (fun same => absurd same Bool.false_ne_true)
          rw [ends, List.append_nil] at isNext
          have scanned := Token.scan_of_reaches allowed reaches isNext
          rw [List.reverse_reverse] at scanned
          exact Node.read_of_forms scanned forms stands
        next => cases ended

end RouteTypes.Yaml
