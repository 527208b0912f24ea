import RouteTypes.Proofs.Check.Success
import RouteTypes.Yaml.Reader

/-!
# Nodes of flow collections

The tokens of a flow collection without anchors and tags form one node, whatever stands behind them
(`Forms`): a scalar, a sequence of nodes between commas (`Forms.sequence`), or a mapping whose keys
are scalars (`Forms.mapping`). Tokens that form a node to which a value belongs are read as this
value (`build_ofTokens`).
-/

namespace RouteTypes.Yaml.Node

open Token

variable {α β : Type} {tokens others left rest : List Token} {token : Token} {node : Node}

/-! ## Runs of the composition -/

/-- The step gives a value and leaves tokens of the given ones, whatever else it knows. -/
def Runs (step : Compose α) (tokens : List Token) (value : α) (left : List Token) : Prop :=
  ∀ handles anchors, step.run ⟨tokens, handles, anchors⟩ = .ok (value, ⟨left, handles, anchors⟩)

theorem Runs.of_pure (value : α) : Runs (pure value) tokens value tokens :=
  fun _ _ => rfl

theorem Runs.bind {step : Compose α} {next : α → Compose β} {value : α} {result : β}
    {middle : List Token} (first : Runs step tokens value middle)
    (second : Runs (next value) middle result left) : Runs (step >>= next) tokens result left := by
  intro handles anchors
  rw [StateT.run_bind, first handles anchors]
  exact second handles anchors

theorem Runs.ite_pos {step other : Compose α} {value : α} {test : Prop} [Decidable test]
    (holds : test) (runs : Runs step tokens value left) :
    Runs (if test then step else other) tokens value left := by
  rwa [if_pos holds]

/-- The token starts a node that has neither anchor nor tag and is no block. -/
def startsFlow : Token → Bool
  | .scalar _ _ => true
  | .flowSequence => true
  | .flowMapping => true
  | _ => false

theorem readable_of_startsFlow (starts : startsFlow token) (fault : Fault) :
    token ≠ .unreadable fault := by
  rintro rfl
  cases starts

theorem runs_peek (readable : ∀ fault, token ≠ .unreadable fault) :
    Runs peek (token :: rest) token (token :: rest) := by
  intro handles anchors
  cases token <;> first | rfl | exact absurd rfl (readable _)

theorem runs_advance : Runs advance (token :: rest) () rest :=
  fun _ _ => rfl

theorem runs_isNext (enders : List Token) (readable : ∀ fault, token ≠ .unreadable fault) :
    Runs (isNext enders) (token :: rest) (enders.contains token) (token :: rest) :=
  (runs_peek readable).bind (.of_pure _)

theorem runs_expect (readable : ∀ fault, token ≠ .unreadable fault) :
    Runs (expect token) (token :: rest) () rest :=
  (runs_peek readable).bind (.ite_pos (beq_self_eq_true token) runs_advance)

/-! ## Nodes -/

/-- The tokens form a node, whatever stands behind them. Fuel of four for each token, less two,
lasts for it. -/
structure Forms (tokens : List Token) (node : Node) : Prop where
  starts : ∃ token others, tokens = token :: others ∧ startsFlow token
  runs : ∀ inBlock fuel rest, 4 * tokens.length ≤ fuel + 2 →
    Runs (compose inBlock false fuel) (tokens ++ rest) node rest

/-- The tokens up to the end of a flow sequence form its items. -/
def FormsItems (first : Bool) (tokens : List Token) (nodes : List Node) : Prop :=
  ∀ fuel rest, 4 * tokens.length ≤ fuel →
    Runs (composeFlowItems first fuel) (tokens ++ rest) nodes rest

/-- The tokens up to the end of a flow mapping form its entries. -/
def FormsEntries (first : Bool) (tokens : List Token) (entries : List (Node × Node)) : Prop :=
  ∀ fuel rest, 4 * tokens.length ≤ fuel →
    Runs (composeFlowEntries first fuel) (tokens ++ rest) entries rest

/-- The tokens in front of an item or entry that is the first one or not. -/
def separators (first : Bool) : List Token :=
  if first then [] else [.flowEntry]

/-- A collection goes on with an item or entry behind its comma, unless it is the first. -/
theorem runs_separated (first : Bool) {stop : Token} {ended : Compose α} {next : Unit → Compose α}
    {value : α} (isStop : stop ∈ [.flowSequenceEnd, .flowMappingEnd])
    (starts : startsFlow token ∨ token = .key)
    (runs : Runs (next ()) (token :: rest) value left) :
    Runs (peek >>= fun token => if token == stop then ended
        else if !first then expect .flowEntry >>= next else next ())
      (separators first ++ token :: rest) value left := by
  simp only [List.mem_cons, List.not_mem_nil, or_false] at isStop
  have different : token ≠ stop := by
    rintro rfl
    rcases isStop with rfl | rfl <;> rcases starts with starts | starts <;> cases starts
  have noComma : Token.flowEntry ≠ stop := by rcases isStop with rfl | rfl <;> nofun
  cases first with
  | true =>
      refine (runs_peek ?_).bind ?_
      · exact starts.elim readable_of_startsFlow (by rintro rfl; nofun)
      · rw [if_neg (by simpa using different)]
        exact runs
  | false =>
      refine (runs_peek (by nofun)).bind ?_
      rw [if_neg (by simpa using noComma)]
      exact (runs_expect (by nofun)).bind runs

/-- A node without anchor and tag is composed from its content. -/
theorem runs_compose {inBlock : Bool} {fuel : Nat} (starts : startsFlow token)
    (content : Runs (composeContent inBlock false ⟨none, none⟩ fuel) (token :: others) node left) :
    Runs (compose inBlock false (fuel + 1)) (token :: others) node left := by
  have readable := readable_of_startsFlow starts
  have noAnchor : Runs readAnchor (token :: others) none (token :: others) := by
    refine (runs_peek readable).bind ?_
    cases token <;> first | exact .of_pure _ | cases starts
  have noTag : Runs readTag (token :: others) none (token :: others) := by
    refine (runs_peek readable).bind ?_
    cases token <;> first | exact .of_pure _ | cases starts
  have plain : Runs properties (token :: others) ⟨none, none⟩ (token :: others) :=
    noAnchor.bind (noTag.bind (.of_pure _))
  unfold compose
  refine (runs_peek readable).bind ?_
  split
  next => cases starts
  next => exact plain.bind (content.bind (.of_pure _))

namespace Forms

theorem length_pos (forms : Forms tokens node) : 0 < tokens.length := by
  obtain ⟨token, others, rfl, _⟩ := forms.starts
  exact Nat.succ_pos _

theorem scalar (text : List Point) (plain : Bool) :
    Forms [.scalar text plain] (.scalar (scalarTag none text plain) text) where
  starts := ⟨_, [], rfl, rfl⟩
  runs inBlock fuel rest enough := by
    rw [List.length_singleton] at enough
    obtain ⟨fuel, rfl⟩ : ∃ less, fuel = less + 2 := ⟨fuel - 2, by omega⟩
    refine runs_compose rfl ?_
    unfold composeContent
    exact (runs_peek (by nofun)).bind (runs_advance.bind (.of_pure _))

theorem sequence {nodes : List Node} (items : FormsItems true tokens nodes) :
    Forms (.flowSequence :: tokens) (.sequence .sequence nodes) where
  starts := ⟨_, tokens, rfl, rfl⟩
  runs inBlock fuel rest enough := by
    rw [List.length_cons] at enough
    obtain ⟨fuel, rfl⟩ : ∃ less, fuel = less + 2 := ⟨fuel - 2, by omega⟩
    refine runs_compose rfl ?_
    unfold composeContent
    have read := items fuel rest (by omega)
    exact (runs_peek (by nofun)).bind (runs_advance.bind (read.bind (.of_pure _)))

theorem mapping {entries : List (Node × Node)} (isMapping : FormsEntries true tokens entries) :
    Forms (.flowMapping :: tokens) (.mapping .mapping entries) where
  starts := ⟨_, tokens, rfl, rfl⟩
  runs inBlock fuel rest enough := by
    rw [List.length_cons] at enough
    obtain ⟨fuel, rfl⟩ : ∃ less, fuel = less + 2 := ⟨fuel - 2, by omega⟩
    refine runs_compose rfl ?_
    unfold composeContent
    have read := isMapping fuel rest (by omega)
    exact (runs_peek (by nofun)).bind (runs_advance.bind (read.bind (.of_pure _)))

/-- A node is composed where it may be left out. -/
theorem runs_unless (forms : Forms tokens node) (enders : List Token)
    (noStart : ∀ ender ∈ enders, startsFlow ender = false) {fuel : Nat}
    (enough : 4 * tokens.length ≤ fuel + 1) (rest : List Token) :
    Runs (composeUnless enders false false fuel) (tokens ++ rest) node rest := by
  have some := forms.length_pos
  obtain ⟨fuel, rfl⟩ : ∃ less, fuel = less + 1 := ⟨fuel - 1, by omega⟩
  have composed := forms.runs false fuel rest (by omega)
  obtain ⟨token, others, rfl, starts⟩ := forms.starts
  have readable := readable_of_startsFlow starts
  have goesOn : enders.contains token = false := by
    rw [List.contains_eq_mem, decide_eq_false_iff_not]
    intro member
    rw [noStart token member] at starts
    cases starts
  unfold composeUnless
  refine (runs_isNext enders readable).bind ?_
  rw [goesOn]
  exact composed

end Forms

/-! ## Items and entries -/

theorem formsItems_nil (first : Bool) : FormsItems first [.flowSequenceEnd] [] := by
  intro fuel rest enough
  obtain ⟨fuel, rfl⟩ := Nat.exists_eq_add_of_le' enough
  unfold composeFlowItems
  exact (runs_peek (by nofun)).bind (.ite_pos rfl (runs_advance.bind (.of_pure _)))

theorem formsItems_cons (first : Bool) {nodes : List Node} (item : Forms tokens node)
    (behind : FormsItems false others nodes) :
    FormsItems first (separators first ++ tokens ++ others) (node :: nodes) := by
  intro fuel rest enough
  have some := item.length_pos
  simp only [List.length_append] at enough
  obtain ⟨fuel, rfl⟩ : ∃ less, fuel = less + 1 := ⟨fuel - 1, by omega⟩
  have composed := item.runs false fuel (others ++ rest) (by omega)
  have more := behind fuel rest (by omega)
  obtain ⟨token, tokens, rfl, starts⟩ := item.starts
  have readable := readable_of_startsFlow starts
  unfold composeFlowItems
  rw [List.append_assoc, List.append_assoc]
  refine runs_separated first (by decide) (.inl starts) ((runs_peek readable).bind ?_)
  split
  next => cases starts
  next => cases starts
  next => exact composed.bind (more.bind (.of_pure _))

theorem formsEntries_nil (first : Bool) : FormsEntries first [.flowMappingEnd] [] := by
  intro fuel rest enough
  obtain ⟨fuel, rfl⟩ := Nat.exists_eq_add_of_le' enough
  unfold composeFlowEntries
  exact (runs_peek (by nofun)).bind (.ite_pos rfl (runs_advance.bind (.of_pure _)))

/-- The tokens of a key in front of its value. -/
def keyTokens (key : List Token) : List Token :=
  .key :: key ++ [.value]

theorem formsEntries_cons (first : Bool) {key : List Token} {keyNode : Node}
    {entries : List (Node × Node)} (isKey : Forms key keyNode) (item : Forms tokens node)
    (behind : FormsEntries false others entries) :
    FormsEntries first (separators first ++ (keyTokens key ++ tokens) ++ others)
      ((keyNode, node) :: entries) := by
  intro fuel rest enough
  simp only [keyTokens, List.length_append, List.length_cons, List.length_nil] at enough
  obtain ⟨fuel, rfl⟩ : ∃ less, fuel = less + 2 := ⟨fuel - 2, by omega⟩
  have named := isKey.runs_unless [.value, .flowEntry, .flowMappingEnd] (by decide)
    (show 4 * key.length ≤ fuel + 1 + 1 by omega) (.value :: (tokens ++ (others ++ rest)))
  have valued := item.runs_unless [.flowEntry, .flowMappingEnd] (by decide)
    (show 4 * tokens.length ≤ fuel + 1 by omega) (others ++ rest)
  have more := behind (fuel + 1) rest (by omega)
  -- The value is composed two levels below the entries, where the fuel still lasts for it.
  have value : Runs (composeValue [.flowEntry, .flowMappingEnd] false (fuel + 1))
      (.value :: (tokens ++ (others ++ rest))) node (others ++ rest) := by
    unfold composeValue
    exact (runs_peek (by nofun)).bind (.ite_pos rfl (runs_advance.bind valued))
  have whole : separators first ++ (keyTokens key ++ tokens) ++ others ++ rest =
      separators first ++ .key :: (key ++ .value :: (tokens ++ (others ++ rest))) := by
    simp [keyTokens]
  unfold composeFlowEntries
  rw [whole]
  refine runs_separated first (by decide) (.inr rfl) ((runs_peek (by nofun)).bind ?_)
  exact runs_advance.bind (named.bind (value.bind (more.bind (.of_pure _))))

/-! ## Documents -/

theorem runs_composeDocument (forms : Forms tokens node) (rest : List Token) :
    Runs (composeDocument false) (tokens ++ rest) node rest := by
  have read := forms.runs true (4 * (tokens ++ rest).length + 4) rest
    (by rw [List.length_append]; omega)
  obtain ⟨token, others, rfl, starts⟩ := forms.starts
  have readable := readable_of_startsFlow starts
  have peeked : Runs peek (token :: (others ++ rest)) token (token :: (others ++ rest)) :=
    runs_peek readable
  intro handles anchors
  unfold composeDocument
  rw [StateT.run_bind, StateT.run_get, pure_bind]
  exact peeked.bind read handles anchors

theorem ofTokens_of_forms (forms : Forms tokens node) :
    ofTokens? (tokens ++ [.streamEnd]) = .ok (some node) := by
  have ended : Runs expectEnd [.streamEnd] () [] := fun _ _ => rfl
  have composed : Runs (do let node ← composeDocument false; expectEnd; return some node)
      (tokens ++ [.streamEnd]) (some node) [] :=
    (runs_composeDocument forms [.streamEnd]).bind (ended.bind (.of_pure _))
  have read := congrArg (Except.map Prod.fst) (composed ([] ++ defaultHandles) [])
  obtain ⟨token, others, rfl, starts⟩ := forms.starts
  unfold ofTokens?
  cases token <;> first | exact read | cases starts

/-! ## Values -/

/-- The node has a value, at every depth. -/
def StandsFor (node : Node) (value : Value) : Prop :=
  ∀ fuel depth, node.depth ≤ fuel → build fuel depth node = .ok value

/-- The node is a key that is written as a string. -/
def IsName (node : Node) (key : RouteTypes.Scalar) : Prop :=
  ∃ points, node = .scalar .text points ∧ key = .ofPoints points

theorem all_ok {parts : List (Built α)} {values : List α}
    (built : List.Forall₂ (fun part value => part = .ok value) parts values) :
    Built.all parts = .ok values := by
  induction built with
  | nil => rfl
  | cons first _ ih =>
      rw [Built.all, first, ih]
      rfl

theorem standsFor_scalar {tag : Tag} {text : List Point} {scalar : RouteTypes.Scalar}
    (value : Scalar.value tag text = .ok scalar) :
    StandsFor (.scalar tag text) (.scalar scalar) := by
  intro fuel depth enough
  have noCollection : ¬isCollection (Node.scalar tag text).tag = true := by
    show ¬isCollection tag = true
    cases tag <;> first | exact Bool.false_ne_true | cases value
  have isScalar : (Node.scalar tag text).scalarValue = .ok scalar := by
    unfold scalarValue scalarText?
    cases tag <;> exact value
  cases fuel with
  | zero => exact absurd enough (Nat.not_succ_le_zero _)
  | succ fuel =>
      unfold build
      dsimp only
      rw [if_neg noCollection, isScalar]
      rfl

theorem all_items {nodes : List Node} {values : List Value}
    (items : List.Forall₂ StandsFor nodes values) {fuel : Nat} (enough : depthItems nodes ≤ fuel)
    (depth : Nat) : Built.all (nodes.map (build fuel depth)) = .ok values := by
  refine all_ok ?_
  induction items with
  | nil => exact .nil
  | cons first _ ih =>
      rw [depthItems, Nat.max_le] at enough
      exact .cons (first fuel depth enough.1) (ih enough.2)

theorem standsFor_sequence {nodes : List Node} {values : List Value}
    (items : List.Forall₂ StandsFor nodes values) :
    StandsFor (.sequence .sequence nodes) (.list values) := by
  intro fuel depth enough
  cases fuel with
  | zero => exact absurd enough (Nat.not_succ_le_zero _)
  | succ fuel =>
      unfold build
      show Value.list <$> Built.all (nodes.map (build fuel (depth + 1))) = _
      rw [all_items items (Nat.le_of_succ_le_succ enough)]
      rfl

/-- A node that is a key and one that is a value form an entry. -/
def EntryStandsFor (entry : Node × Node) (pair : RouteTypes.Scalar × Value) : Prop :=
  IsName entry.1 pair.1 ∧ StandsFor entry.2 pair.2

variable {entries : List (Node × Node)} {pairs : Entries}

/-- Keys that are written as strings merge nothing. -/
theorem flatten_names (built : List.Forall₂ EntryStandsFor entries pairs) (fuel : Nat) :
    flatten fuel entries = .ok entries := by
  have names : ∀ entry ∈ entries, ∃ name, entry.1 = .scalar .text name := by
    induction built with
    | nil => exact nofun
    | cons first _ ih =>
        obtain ⟨⟨name, isName, _⟩, _⟩ := first
        exact List.forall_mem_cons.2 ⟨⟨_, isName⟩, ih⟩
  have noMerge : entries.filter (·.1.tag == .merge) = [] := by
    refine List.filter_eq_nil_iff.2 fun entry member => ?_
    obtain ⟨name, same⟩ := names entry member
    rw [same]
    exact Bool.false_ne_true
  have own : entries.filter (·.1.tag != .merge) = entries := by
    refine List.filter_eq_self.2 fun entry member => ?_
    obtain ⟨name, same⟩ := names entry member
    rw [same]
    rfl
  have plain : entries.map (fun entry => (entry.1.plainKey, entry.2)) = entries := by
    refine (List.map_congr_left fun entry member => ?_).trans (List.map_id _)
    obtain ⟨name, same⟩ := names entry member
    rw [same, plainKey, ← same]
    · rfl
    · nofun
    · nofun
    · nofun
  cases fuel with
  | zero => rfl
  | succ fuel =>
      unfold flatten
      rw [noMerge, own, plain]
      rfl

theorem all_entries (built : List.Forall₂ EntryStandsFor entries pairs) {fuel : Nat}
    (enough : depthEntries entries ≤ fuel) (depth : Nat) :
    Built.all (entries.map fun entry =>
      Built.both (keyValue depth entry.1) (build fuel depth entry.2)) = .ok pairs := by
  refine all_ok ?_
  induction built with
  | nil => exact .nil
  | @cons entry pair _ _ first _ ih =>
      obtain ⟨key, node⟩ := entry
      obtain ⟨name, value⟩ := pair
      obtain ⟨⟨points, rfl, rfl⟩, value⟩ := first
      rw [depthEntries, Nat.max_le, Nat.max_le] at enough
      refine .cons ?_ (ih enough.2)
      have isKey : keyValue depth (.scalar .text points) = .ok (.ofPoints points) := rfl
      dsimp only at value ⊢
      rw [isKey, value fuel depth enough.1.2]
      rfl

theorem standsFor_mapping (built : List.Forall₂ EntryStandsFor entries pairs) :
    StandsFor (.mapping .mapping entries) (.mapping (Entries.putAll [] pairs)) := by
  intro fuel depth enough
  cases fuel with
  | zero => exact absurd enough (Nat.not_succ_le_zero _)
  | succ fuel =>
      have all := all_entries built (Nat.le_of_succ_le_succ enough) (depth + 1)
      unfold build
      dsimp only
      rw [if_pos (by rfl), flatten_names built]
      dsimp only
      rw [all]
      rfl

/-- A text whose tokens form one node is read as the value of this node. -/
theorem read_of_forms {text : String} {value : Value}
    (scanned : Token.scan text.toList = tokens ++ [.streamEnd]) (forms : Forms tokens node)
    (stands : StandsFor node value) : read text = .ok value := by
  rw [read, scanned, ofTokens_of_forms forms]
  show Except.mapError _ (build _ 0 node) = _
  rw [stands _ 0 (Nat.le_succ _)]
  rfl

end RouteTypes.Yaml.Node
