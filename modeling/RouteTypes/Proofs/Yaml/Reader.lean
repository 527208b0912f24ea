import Mathlib.Data.List.MinMax
import RouteTypes.Proofs.Yaml.Compose
import RouteTypes.Yaml.Reader

/-!
# Documents without a value

A text that is a document of YAML may still have no value, because one of its nodes has none, for
one of the reasons of the tag of this node (`Unfit`). Where there are several such nodes, the ones
that stand in the document are listed in order with their depths (`Node.blemishes`), and the first
of the highest ones is told (`Node.lists_build`). Together with the tokens that cannot be read,
these are all reasons why a text that is not malformed is not read (`read_eq_error_iff`).
-/

namespace RouteTypes.Yaml

/-- The reasons for which a scalar with a tag may have no value. -/
inductive Unfit : Tag → Fault → Prop where
  | malformed (tag : Tag) : Unfit tag .malformed
  | truth (word : String) : Unfit .bool (.truth word)
  | noInteger : Unfit .int .empty
  | integer (fault : Number.Fault) : Unfit .int (.number fault)
  | noFloat : Unfit .float .empty
  | float (fault : Number.Fault) : Unfit .float (.number fault)
  | sixtieths : Unfit .float .sixtieths
  | timestamp : Unfit .timestamp .timestamp
  | calendar (fault : Calendar.Fault) : Unfit .timestamp (.calendar fault)
  | collection (kind : String) : Unfit .timestamp (.timestampOf kind)

/-- A step gives some value, or fails for a reason of a tag. -/
abbrev Suits {α : Type} (tag : Tag) (step : Except Fault α) : Prop :=
  Meets (Unfit tag) (fun _ => True) step

theorem suits_mapError {γ α : Type} {tag : Tag} {explain : γ → Fault}
    (causes : ∀ cause, Unfit tag (explain cause)) (step : Except γ α) :
    Suits tag (step.mapError explain) :=
  .mapError causes fun _ => trivial

theorem Suits.map {α β : Type} {tag : Tag} {step : Except Fault α} (suits : Suits tag step)
    (change : α → β) : Suits tag (change <$> step) :=
  Meets.map suits fun _ _ => trivial

/-! ## Scalars -/

namespace Scalar

theorem suits_splitNumber {tag : Tag} (empty : Unfit tag .empty) (text : List Char) :
    Suits tag (splitNumber text) := by
  unfold splitNumber
  split
  next => exact empty
  all_goals trivial

theorem suits_integerIn (base : Nat) (text : List Char) : Suits .int (integerIn base text) :=
  suits_mapError .integer _

theorem suits_positive (text : List Char) : Suits .int (positive text) := by
  unfold positive
  split
  next => exact .noInteger
  next => trivial
  next => exact suits_integerIn 2 _
  next => exact suits_integerIn 16 _
  next => exact suits_integerIn 8 _
  next =>
    refine .ite ?_ (suits_integerIn 10 _)
    exact (Meets.mapM _ fun part _ => suits_integerIn 10 part).bind fun _ _ => trivial

theorem suits_integer (text : List Char) : Suits .int (integer text) := by
  refine (suits_splitNumber .noInteger _).bind fun split _ => ?_
  exact (suits_positive split.2).bind fun _ _ => trivial

theorem suits_floatOf (text : List Char) : Suits .float (floatOf text) :=
  suits_mapError .float _

theorem suits_sumSixtieths (base : Nat) (sum : Binary64) (parts : List Binary64) :
    Suits .float (sumSixtieths base sum parts) := by
  induction parts generalizing base sum with
  | nil => trivial
  | cons part rest ih => exact .ite .sixtieths (ih _ _)

theorem suits_float (text : List Char) : Suits .float (float text) := by
  refine (suits_splitNumber .noFloat _).bind fun split _ => ?_
  refine .ite trivial (.ite trivial (.ite ?_ ?_))
  · refine (Meets.mapM _ fun part _ => suits_floatOf part).bind fun parts _ => ?_
    exact (suits_sumSixtieths _ _ _).bind fun _ _ => trivial
  · exact (suits_floatOf _).bind fun _ _ => trivial

theorem suits_timestamp (text : List Char) : Suits .timestamp (timestamp text) := by
  unfold timestamp
  split
  next => exact .timestamp
  next parts _ =>
    dsimp only
    split
    next => exact (suits_mapError .calendar _).map _
    next => exact (suits_mapError .calendar _).map _

theorem suits_truth (text : List Char) : Suits .bool (truth text) :=
  .ite trivial (.ite trivial (.truth _))

theorem suits_binary (text : List Char) : Suits .binary (binary text) := by
  refine .ite ?_ (.malformed .binary)
  split
  next => trivial
  next => exact .malformed .binary

/-- A scalar has no value for a reason of its tag. -/
theorem suits_value (tag : Tag) (points : List Point) : Suits tag (value tag points) := by
  unfold value
  split
  next => trivial
  next => exact (suits_truth _).map _
  next => exact (suits_integer _).map _
  next => exact (suits_float _).map _
  next => trivial
  next => exact suits_timestamp _
  next => exact (suits_binary _).map _
  next => exact .malformed tag

end Scalar

/-! ## Nodes -/

namespace Node

/-- The parts of a node: itself, and the parts of its items, keys and values. -/
inductive Part (part : Node) : Node → Prop where
  | self : Part part part
  | item {tag : Tag} {items : List Node} {item : Node} (member : item ∈ items)
      (inner : Part part item) : Part part (.sequence tag items)
  | key {tag : Tag} {entries : List (Node × Node)} {entry : Node × Node}
      (member : entry ∈ entries) (inner : Part part entry.1) : Part part (.mapping tag entries)
  | value {tag : Tag} {entries : List (Node × Node)} {entry : Node × Node}
      (member : entry ∈ entries) (inner : Part part entry.2) : Part part (.mapping tag entries)

theorem Part.trans {part inner node : Node} (first : Part part inner) (second : Part inner node) :
    Part part node := by
  induction second with
  | self => exact first
  | item member _ ih => exact .item member ih
  | key member _ ih => exact .key member ih
  | value member _ ih => exact .value member ih

theorem suits_scalarValue (node : Node) : Suits node.tag node.scalarValue := by
  unfold scalarValue
  split
  next => exact .malformed _
  next text _ =>
    split
    next tagged =>
      rw [tagged]
      exact .collection _
    next => exact Scalar.suits_value _ _

/-- The key of a default value has no value only if the node itself has none. -/
theorem scalarValue_of_plainKey {key : Node} {fault : Fault}
    (failed : key.plainKey.scalarValue = .error fault) :
    fault = .malformed ∨ key.scalarValue = .error fault := by
  unfold plainKey at failed
  split at failed
  next => cases failed
  next =>
    cases failed
    exact .inl rfl
  next entries =>
    unfold scalarValue at failed
    split at failed
    next =>
      cases failed
      exact .inl rfl
    next => cases failed
  next => exact .inr failed

/-- An entry comes from a node: its value is a part of it, and so is its key, but for being the key
of a default value. -/
def Comes (node : Node) (entry : Node × Node) : Prop :=
  Part entry.2 node ∧ ∃ key, Part key node ∧ (entry.1 = key ∨ entry.1 = key.plainKey)

theorem Comes.trans {inner node : Node} {entry : Node × Node} (comes : Comes inner entry)
    (part : Part inner node) : Comes node entry := by
  obtain ⟨value, key, stands, same⟩ := comes
  exact ⟨value.trans part, key, stands.trans part, same⟩

/-- Entries that come from a node. -/
def AllCome (node : Node) (entries : List (Node × Node)) : Prop :=
  ∀ entry ∈ entries, Comes node entry

theorem AllCome.trans {inner node : Node} {entries : List (Node × Node)}
    (come : AllCome inner entries) (part : Part inner node) : AllCome node entries :=
  fun entry member => (come entry member).trans part

theorem allCome_flatten {node : Node} {parts : List (List (Node × Node))}
    (each : ∀ part ∈ parts, AllCome node part) : AllCome node parts.flatten := by
  intro entry member
  obtain ⟨part, inParts, inPart⟩ := List.mem_flatten.1 member
  exact each part inParts entry inPart

/-- The entries of a mapping, with those that it merges, come from this mapping. -/
theorem meets_flatten (fuel : Nat) (tag : Tag) (entries : List (Node × Node)) :
    Meets (· = .malformed) (AllCome (.mapping tag entries)) (flatten fuel entries) := by
  induction fuel generalizing tag entries with
  | zero =>
      exact fun entry member => ⟨.value member .self, entry.1, .key member .self, .inl rfl⟩
  | succ fuel ih =>
      -- The entries of a merged mapping come from it, and it is itself a part of the outer one.
      have mergedFrom (inner : Tag) (merged : List (Node × Node)) {node : Node}
          (part : Part (.mapping inner merged) node) :
          Meets (· = .malformed) (AllCome node) (flatten fuel merged) :=
        (ih inner merged).imp (fun _ => id) fun _ come => come.trans part
      unfold flatten
      refine (Meets.mapM (AllCome (.mapping tag entries)) ?_).bind ?_
      · intro entry member
        have value : Part entry.2 (.mapping tag entries) :=
          .value (List.mem_of_mem_filter member) .self
        split
        next inner merged found => exact mergedFrom inner merged (found ▸ value)
        next items found =>
          rw [found] at value
          refine (Meets.mapM (AllCome (.mapping tag entries)) ?_).bind ?_
          · intro item inItems
            split
            next inner merged =>
              exact mergedFrom inner merged ((Part.item inItems .self).trans value)
            next => rfl
          · intro parts each
            exact allCome_flatten fun part member => each part (List.mem_reverse.1 member)
        next => rfl
      · intro merged each entry member
        rcases List.mem_append.1 member with before | own
        · exact allCome_flatten each entry before
        · obtain ⟨entry, inEntries, rfl⟩ := List.mem_map.1 own
          have member := List.mem_of_mem_filter inEntries
          exact ⟨.value member .self, entry.1, .key member .self, .inr rfl⟩

end Node

namespace Built

variable {α β : Type}

/-- The faults of a part of a document: building it tells the first of the highest ones, and gives a
value where there is none. -/
def Lists (built : Built α) (faults : List (Nat × Fault)) : Prop :=
  match built with
  | .ok _ => faults = []
  | .error fault => faults.argmin Prod.fst = some fault

/-- The first of the highest faults of two lists is the one that is higher, of equally high ones
that of the first list. -/
theorem argmin_append (faults others : List (Nat × Fault)) :
    (faults ++ others).argmin Prod.fst =
      match faults.argmin Prod.fst, others.argmin Prod.fst with
      | some fault, some other => some (if other.1 < fault.1 then other else fault)
      | some fault, none => some fault
      | none, other => other := by
  induction faults with
  | nil => rfl
  | cons first rest ih =>
      rw [List.cons_append, List.argmin_cons, List.argmin_cons, ih]
      cases rest.argmin Prod.fst with
      | none =>
          cases others.argmin Prod.fst with
          | none => rfl
          | some other => by_cases highest : other.1 < first.1 <;> simp [highest]
      | some fault =>
          cases others.argmin Prod.fst with
          | none => by_cases higher : fault.1 < first.1 <;> simp [higher]
          | some other =>
              by_cases lower : other.1 < fault.1 <;> by_cases higher : fault.1 < first.1 <;>
                by_cases highest : other.1 < first.1 <;> simp [lower, higher, highest] <;> omega

namespace Lists

variable {faults others : List (Nat × Fault)}

theorem both {left : Built α} {right : Built β} (first : Lists left faults)
    (second : Lists right others) : Lists (Built.both left right) (faults ++ others) := by
  cases left with
  | ok =>
      obtain rfl : faults = [] := first
      cases right with
      | ok => exact second
      | error => exact second
  | error fault =>
      have first : faults.argmin Prod.fst = some fault := first
      cases right with
      | ok =>
          obtain rfl : others = [] := second
          rw [List.append_nil]
          exact first
      | error other =>
          have second : others.argmin Prod.fst = some other := second
          exact (argmin_append faults others).trans (by rw [first, second])

theorem map {built : Built α} (lists : Lists built faults) (change : α → β) :
    Lists (change <$> built) faults := by
  cases built with
  | ok => exact lists
  | error => exact lists

theorem all {items : List α} {each : α → Built β} {list : α → List (Nat × Fault)}
    (lists : ∀ item ∈ items, Lists (each item) (list item)) :
    Lists (Built.all (items.map each)) (items.flatMap list) := by
  induction items with
  | nil => rfl
  | cons item rest ih =>
      rw [List.forall_mem_cons] at lists
      exact (lists.1.both (ih lists.2)).map _

end Lists

/-- The fault of what cannot be built, if there is one. -/
def faults : Built α → List (Nat × Fault)
  | .ok _ => []
  | .error fault => [fault]

theorem lists_faults (built : Built α) : Lists built built.faults := by
  cases built <;> rfl

end Built

namespace Node

/-- The faults of what stands in a node, each with its depth, in the order of the document. -/
def blemishes : Nat → Nat → Node → List (Nat × Fault)
  | 0, depth, _ => [(depth, .malformed)]
  | fuel + 1, depth, node =>
    let inner := depth + 1
    let ofEntries (entries : List (Node × Node)) :=
      match flatten fuel entries with
      | .error fault => [(inner, fault)]
      | .ok entries =>
        entries.flatMap fun entry =>
          Built.faults (keyValue inner entry.1) ++ blemishes fuel inner entry.2
    let ofPair (item : Node) :=
      match item with
      | .mapping _ [entry] => blemishes fuel inner entry.1 ++ blemishes fuel inner entry.2
      | _ => [(inner, .malformed)]
    if isCollection node.tag then
      match node with
      | .sequence .sequence items => items.flatMap (blemishes fuel inner)
      | .sequence .orderedMapping items => items.flatMap ofPair
      | .sequence .pairs items => items.flatMap ofPair
      | .mapping .mapping entries => ofEntries entries
      | .mapping .set entries => ofEntries entries
      | _ => [(inner, .malformed)]
    else Built.faults (node.scalarValue.mapError (depth, ·))

section Building

variable {fuel depth : Nat}
  (below : ∀ node, Built.Lists (build fuel depth node) (blemishes fuel depth node))

include below

theorem lists_entries (entries : List (Node × Node)) :
    Built.Lists
      (match flatten fuel entries with
        | .error fault => .error (depth, fault)
        | .ok entries =>
          (Built.all (entries.map fun entry =>
            Built.both (keyValue depth entry.1) (build fuel depth entry.2))).map
              fun entries => Entries.putAll [] entries)
      (match flatten fuel entries with
        | .error fault => [(depth, fault)]
        | .ok entries =>
          entries.flatMap fun entry =>
            Built.faults (keyValue depth entry.1) ++ blemishes fuel depth entry.2) := by
  cases flatten fuel entries with
  | error fault => rfl
  | ok entries =>
      exact (Built.Lists.all fun entry _ => (Built.lists_faults _).both (below entry.2)).map _

theorem lists_pair (item : Node) :
    Built.Lists
      (match item with
        | .mapping _ [entry] =>
          (Built.both (build fuel depth entry.1) (build fuel depth entry.2)).map
            fun (key, value) => Value.tuple [key, value]
        | _ => .error (depth, .malformed))
      (match item with
        | .mapping _ [entry] => blemishes fuel depth entry.1 ++ blemishes fuel depth entry.2
        | _ => [(depth, .malformed)]) := by
  split
  next => exact ((below _).both (below _)).map _
  next => rfl

end Building

/-- Building a node tells the first of its highest faults. -/
theorem lists_build (fuel depth : Nat) (node : Node) :
    Built.Lists (build fuel depth node) (blemishes fuel depth node) := by
  induction fuel generalizing depth node with
  | zero => rfl
  | succ fuel ih =>
      have below := ih (depth + 1)
      unfold build blemishes
      dsimp only
      split
      next =>
        cases node with
        | scalar => rfl
        | sequence tag items =>
            cases tag with
            | sequence => exact (Built.Lists.all fun item _ => below item).map _
            | orderedMapping | pairs =>
                exact (Built.Lists.all fun item _ => lists_pair below item).map _
            | _ => rfl
        | mapping tag entries =>
            cases tag with
            | mapping | set => exact (lists_entries below _).map _
            | _ => rfl
      next => cases node.scalarValue <;> rfl

/-- A fault of a node: it has no value at all, or one of its parts has none. -/
def Valueless (node : Node) (fault : Fault) : Prop :=
  fault = .malformed ∨ ∃ part, Part part node ∧ part.scalarValue = .error fault

theorem Valueless.of_part {part node : Node} {fault : Fault} (valueless : Valueless part fault)
    (stands : Part part node) : Valueless node fault :=
  valueless.imp_right fun ⟨inner, within, failed⟩ => ⟨inner, within.trans stands, failed⟩

variable {node : Node} {fault : Nat × Fault}

/-- A key has no value only because the node that it comes from has none. -/
theorem valueless_of_key {entry : Node × Node} (comes : Comes node entry) {depth : Nat}
    (blemish : fault ∈ Built.faults (keyValue depth entry.1)) : Valueless node fault.2 := by
  obtain ⟨_, key, stands, same⟩ := comes
  unfold keyValue at blemish
  split at blemish
  next =>
    rw [List.mem_singleton.1 blemish]
    exact .inl rfl
  next =>
    cases found : entry.1.scalarValue with
    | ok value =>
        rw [found] at blemish
        cases blemish
    | error cause =>
        rw [found] at blemish
        rw [List.mem_singleton.1 blemish]
        rcases same with same | same <;> rw [same] at found
        · exact .inr ⟨key, stands, found⟩
        · exact (scalarValue_of_plainKey found).imp_right fun failed => ⟨key, stands, failed⟩

variable {fuel depth : Nat}

/-- The faults of the entries of a mapping, once other mappings are merged, are those of its
parts. -/
theorem valueless_of_entries
    (inner : ∀ part, Part part node → fault ∈ blemishes fuel depth part → Valueless part fault.2)
    {tag : Tag} {entries : List (Node × Node)} (stands : Part (.mapping tag entries) node)
    (blemish : fault ∈ match flatten fuel entries with
      | .error cause => [(depth, cause)]
      | .ok entries =>
        entries.flatMap fun (entry : Node × Node) =>
          Built.faults (keyValue depth entry.1) ++ blemishes fuel depth entry.2) :
    Valueless node fault.2 := by
  have flattened := meets_flatten fuel tag entries
  split at blemish
  next cause failed =>
    rw [List.mem_singleton.1 blemish]
    exact .inl (flattened.of_error failed)
  next flat gave =>
    obtain ⟨entry, inFlat, blemish⟩ := List.mem_flatMap.1 blemish
    have comes := (flattened.of_ok gave).trans stands entry inFlat
    rcases List.mem_append.1 blemish with ofKey | ofValue
    · exact valueless_of_key comes ofKey
    · exact (inner entry.2 comes.1 ofValue).of_part comes.1

/-- The faults of an item of a list of pairs are those of its key and of its value. -/
theorem valueless_of_pair
    (inner : ∀ part, Part part node → fault ∈ blemishes fuel depth part → Valueless part fault.2)
    {item : Node} (stands : Part item node)
    (blemish : fault ∈ match item with
      | .mapping _ [entry] => blemishes fuel depth entry.1 ++ blemishes fuel depth entry.2
      | _ => [(depth, .malformed)]) :
    Valueless node fault.2 := by
  split at blemish
  next =>
    have key := (Part.key List.mem_cons_self .self).trans stands
    have value := (Part.value List.mem_cons_self .self).trans stands
    rcases List.mem_append.1 blemish with ofKey | ofValue
    · exact (inner _ key ofKey).of_part key
    · exact (inner _ value ofValue).of_part value
  next =>
    rw [List.mem_singleton.1 blemish]
    exact .inl rfl

/-- A fault that stands in a node is one that a part of it may be blamed for. -/
theorem valueless_of_blemish (blemish : fault ∈ blemishes fuel depth node) :
    Valueless node fault.2 := by
  induction fuel generalizing depth node with
  | zero =>
      rw [List.mem_singleton.1 blemish]
      exact .inl rfl
  | succ fuel ih =>
      have inner (part : Node) (_ : Part part node)
          (blemish : fault ∈ blemishes fuel (depth + 1) part) : Valueless part fault.2 :=
        ih blemish
      unfold blemishes at blemish
      dsimp only at blemish
      split at blemish
      next =>
        split at blemish
        next =>
          obtain ⟨item, member, blemish⟩ := List.mem_flatMap.1 blemish
          exact (ih blemish).of_part (.item member .self)
        next =>
          obtain ⟨item, member, blemish⟩ := List.mem_flatMap.1 blemish
          exact valueless_of_pair inner (.item member .self) blemish
        next =>
          obtain ⟨item, member, blemish⟩ := List.mem_flatMap.1 blemish
          exact valueless_of_pair inner (.item member .self) blemish
        next => exact valueless_of_entries inner .self blemish
        next => exact valueless_of_entries inner .self blemish
        next =>
          rw [List.mem_singleton.1 blemish]
          exact .inl rfl
      next =>
        cases found : node.scalarValue with
        | ok value =>
            rw [found] at blemish
            cases blemish
        | error cause =>
            rw [found] at blemish
            rw [List.mem_singleton.1 blemish]
            exact .inr ⟨node, .self, found⟩

end Node

/-- What keeps a text from being read, when it is not malformed: it breaks off at a token that
cannot be read and that is still asked for, or it forms a node of whose parts without a value the
first of the highest ones fails for a reason of its tag. -/
inductive Faulty (text : String) (fault : Fault) : Prop where
  | text {front : List Token} (breaks : Token.BreaksOff text.toList front fault)
      (asked : Node.Asks front)
  | value {node part : Node} {depth : Nat}
      (formed : Node.ofTokens? (Token.scan text.toList) = .ok (some node))
      (first : (node.blemishes (node.depth + 1) 0).argmin Prod.fst = some (depth, fault))
      (stands : Node.Part part node) (valueless : part.scalarValue = .error fault)
      (unfit : Unfit part.tag fault)

/-- A text is not read exactly if it is malformed, or something in it keeps it from being read. -/
theorem read_eq_error_iff {text : String} {fault : Fault} (wellFormed : fault ≠ .malformed) :
    read text = .error fault ↔ Faulty text fault := by
  have broken := @Node.ofTokens_scan_eq_error_iff text.toList fault wellFormed
  unfold read
  cases found : Node.ofTokens? (Token.scan text.toList) with
  | error cause =>
      rw [found] at broken
      change Except.error cause = Except.error fault ↔ Faulty text fault
      rw [Except.error.injEq] at broken ⊢
      refine broken.trans ⟨fun ⟨front, breaks, asked⟩ => .text breaks asked, ?_⟩
      rintro (⟨breaks, asked⟩ | ⟨formed, -, -, -, -⟩)
      · exact ⟨_, breaks, asked⟩
      · cases found.symm.trans formed
  | ok formed =>
      rw [found] at broken
      have unbroken {front : List Token} (breaks : Token.BreaksOff text.toList front fault)
          (asked : Node.Asks front) : False :=
        nomatch broken.2 ⟨front, breaks, asked⟩
      cases formed with
      | none =>
          refine ⟨nofun, ?_⟩
          rintro (⟨breaks, asked⟩ | ⟨formed, -, -, -, -⟩)
          · exact (unbroken breaks asked).elim
          · cases found.symm.trans formed
      | some node =>
          have lists := node.lists_build (node.depth + 1) 0
          constructor
          · intro failed
            cases built : node.build (node.depth + 1) 0 with
            | ok value => simp [built, bind, Except.bind, Except.mapError] at failed
            | error cause =>
                simp only [built, bind, Except.bind, Except.mapError, Except.error.injEq] at failed
                subst failed
                rw [built] at lists
                have first : (node.blemishes (node.depth + 1) 0).argmin Prod.fst = some cause :=
                  lists
                rcases Node.valueless_of_blemish (List.argmin_mem first) with
                  malformed | ⟨part, stands, valueless⟩
                · exact (wellFormed malformed).elim
                · exact .value found first stands valueless
                    ((Node.suits_scalarValue part).of_error valueless)
          · rintro (⟨breaks, asked⟩ | ⟨formed, first, -, -, -⟩)
            · exact (unbroken breaks asked).elim
            · cases found.symm.trans formed
              cases built : node.build (node.depth + 1) 0 with
              | ok value =>
                  rw [built] at lists
                  have none : node.blemishes (node.depth + 1) 0 = [] := lists
                  rw [none] at first
                  cases first
              | error cause =>
                  rw [built] at lists
                  have same := first.symm.trans lists
                  cases same
                  simp [built, bind, Except.bind, Except.mapError]

end RouteTypes.Yaml
