import Mathlib.Logic.Relation
import RouteTypes.Proofs.Yaml.Literal
import RouteTypes.Proofs.Yaml.Plain
import RouteTypes.Proofs.Yaml.Quoted
import RouteTypes.Proofs.Yaml.Token

/-!
# Tokens of flow collections

Inside of a flow collection the division into tokens is in a state that is known but for the
candidates of keys (`State.Inside`): it stands in front of a text, behind some tokens. One step
takes a mark, a word or a string from the front of the text and adds the token of it
(`Inside.opens`, `Inside.closes`, `Inside.comma`, `Inside.literal`, `Inside.quotes`); a string and
the colon behind it become a key (`Inside.name`). The steps up to the end of a text give its tokens
(`scan_of_reaches`).
-/

namespace RouteTypes.Yaml

open Json (IsGap)

/-! ## Kinds of flow collections -/

/-- A kind of flow collection. -/
inductive FlowKind where
  | sequence
  | mapping

namespace FlowKind

/-- The mark in front of the collection. -/
def opening : FlowKind → Char
  | .sequence => '['
  | .mapping => '\x7b'

/-- The mark behind the collection. -/
def closing : FlowKind → Char
  | .sequence => ']'
  | .mapping => '\x7d'

/-- The token of the mark in front of the collection. -/
def start : FlowKind → Token
  | .sequence => .flowSequence
  | .mapping => .flowMapping

/-- The token of the mark behind the collection. -/
def stop : FlowKind → Token
  | .sequence => .flowSequenceEnd
  | .mapping => .flowMappingEnd

end FlowKind

namespace Token.State

variable {state : State} {gap text rest : List Char} {depth : Nat} {tokens : List Token}

/-! ## States inside of flow collections -/

/-- The state stands outside of all blocks and inside of so many flow collections, in front of a
text, maybe with white space between, and behind some tokens, which are given in reverse. No key is
required there. -/
structure Inside (depth : Nat) (tokens : List Token) (text : List Char) (state : State) :
    Prop where
  before : ∃ gap, IsGap gap ∧ state.cursor.rest = gap ++ text
  unmarked : state.cursor.index = 0 → state.cursor.here ≠ '\uFEFF'
  levels : state.candidates.length = depth + 1
  optional : ∀ candidate, some candidate ∈ state.candidates → candidate.required = false
  added : state.tokens = tokens
  counted : state.count = tokens.length
  unindented : state.indent = -1

namespace Inside

/-- The state may as well stand behind white space. -/
theorem behind_gap (isGap : IsGap gap) (inside : state.Inside depth tokens (gap ++ text)) :
    state.Inside depth tokens text := by
  obtain ⟨front, isFront, left⟩ := inside.before
  refine { inside with before := ⟨front ++ gap, ?_, by rw [left, List.append_assoc]⟩ }
  intro c member
  exact (List.mem_append.1 member).elim (isFront c) (isGap c)

/-- The state may as well stand behind the white space of a portable text. -/
theorem skipSpace (inside : state.Inside depth tokens text) (portable : Json.Portable text) :
    state.Inside depth tokens (Json.skipSpace text) := by
  obtain ⟨_, gap, isGap, same⟩ := Json.portable_skipSpace portable
  rw [same] at inside
  exact inside.behind_gap isGap

theorem skipMark_eq (inside : state.Inside depth tokens text) : state.skipMark = state := by
  unfold skipMark
  refine if_neg fun marked => ?_
  rw [Bool.and_eq_true, beq_iff_eq, beq_iff_eq] at marked
  exact inside.unmarked marked.1 marked.2

theorem inFlow_eq (inside : state.Inside (depth + 1) tokens text) : state.inFlow = true := by
  rw [inFlow, inside.levels, decide_eq_true_eq]
  omega

theorem unwind_eq (inside : state.Inside depth tokens text) {column : Int} (least : -1 ≤ column) :
    state.unwind column = state := by
  unfold unwind
  split
  next => rfl
  next =>
    unfold closeBlocks
    rw [if_neg]
    have known := inside.unindented
    omega

/-- The candidates of the levels. -/
theorem candidates_eq (inside : state.Inside depth tokens text) :
    ∃ others, state.candidates = state.candidate :: others := by
  obtain ⟨first, others, same⟩ := List.exists_cons_of_length_eq_add_one inside.levels
  exact ⟨others, by rw [candidate, same]; rfl⟩

theorem setCandidate (inside : state.Inside depth tokens text) {candidate : Option Candidate}
    (optional : ∀ found ∈ candidate, found.required = false) :
    (state.setCandidate candidate).Inside depth tokens text := by
  obtain ⟨others, same⟩ := inside.candidates_eq
  refine { inside with levels := ?_, optional := ?_ }
  · rw [← inside.levels, same, State.setCandidate, same]
    rfl
  · intro found member
    rw [State.setCandidate, same] at member
    rcases List.mem_cons.1 member with first | behind
    · exact optional found first.symm
    · exact inside.optional found (same ▸ List.mem_cons_of_mem _ behind)

/-- No candidate may stand in place of any. -/
theorem clearCandidate (inside : state.Inside depth tokens text) :
    (state.setCandidate none).Inside depth tokens text := by
  refine inside.setCandidate ?_
  intro _ found
  cases found

theorem dropCandidate_eq (inside : state.Inside depth tokens text) :
    state.dropCandidate = .ok (state.setCandidate none) := by
  obtain ⟨others, same⟩ := inside.candidates_eq
  unfold dropCandidate
  split
  next found isFound =>
    have optional := inside.optional found (by rw [same, isFound]; exact List.mem_cons_self)
    rw [if_neg (by rw [optional]; exact Bool.false_ne_true)]
  next none =>
    rw [none] at same
    rw [State.setCandidate, same]
    exact congrArg Except.ok (congrArg (fun candidates => { state with candidates }) same)

/-- Where a key may start, its candidate is saved. -/
theorem saveCandidate (inside : state.Inside depth tokens text) :
    ∃ saved, state.saveCandidate = .ok saved ∧ saved.Inside depth tokens text ∧
      saved.cursor = state.cursor ∧
      (state.keyAllowed = true → saved.candidate =
        some ⟨tokens.length, false, state.cursor.index, state.cursor.line,
          state.cursor.column⟩) := by
  unfold State.saveCandidate
  split
  next allowed =>
    have outside : (state.indent == (state.cursor.column : Int)) = false := by
      rw [inside.unindented, beq_eq_false_iff_ne]
      omega
    have free (test : Bool) : (test && state.indent == (state.cursor.column : Int)) = false := by
      rw [outside, Bool.and_false]
    have cleared : (state.setCandidate none).Inside depth tokens text := inside.clearCandidate
    rw [inside.dropCandidate_eq]
    refine ⟨_, rfl, ?_, rfl, fun _ => ?_⟩
    · refine cleared.setCandidate ?_
      intro found isFound
      cases isFound
      exact free _
    · rw [← inside.counted, ← free]
      rfl
  next forbidden => exact ⟨state, rfl, inside, rfl, fun allowed => absurd allowed forbidden⟩

end Inside

/-! ## The step -/

/-- White space is moved over. A key may start behind it where one might before. -/
theorem toNextToken_gap (state : State) (isGap : IsGap gap) (halts : Halts text)
    (left : state.cursor.rest = gap ++ text) {fuel : Nat} (enough : gap.length < fuel) :
    ∃ allowed, (state.keyAllowed = true → allowed = true) ∧ toNextToken fuel state =
      { state with cursor := state.cursor.advance gap.length, keyAllowed := allowed } := by
  induction fuel generalizing state gap with
  | zero => exact absurd enough (Nat.not_lt_zero _)
  | succ fuel ih =>
      obtain ⟨spaces, others, rfl, first, spanned⟩ := Cursor.span_gap halts left
      have skipped : state.cursor.skipSpaces = state.cursor.advance spaces.length :=
        congrArg Prod.snd spanned
      have behind : (state.cursor.advance spaces.length).rest = others ++ text := by
        rw [Cursor.rest_advance, left, List.append_assoc, List.drop_left]
      obtain ⟨noComment, goesOn⟩ := Cursor.here_gap (IsGap.behind isGap) halts first behind
      have kept : (state.cursor.advance spaces.length).skipComment =
          state.cursor.advance spaces.length := by
        rw [Cursor.skipComment, if_neg (by simpa using noComment)]
      rw [toNextToken, skipped, kept]
      dsimp only
      split
      next ends =>
        cases others with
        | nil => exact absurd rfl (goesOn.1 ends)
        | cons c others =>
            obtain ⟨taken, left', split, some, ends⟩ :=
              Cursor.lineEnd_gap (IsGap.behind isGap) halts
              (first c rfl) behind
            have consumed : 0 < taken.length := List.length_pos_iff.2 some
            have length : (spaces ++ c :: others).length =
                spaces.length + taken.length + left'.length := by
              rw [List.length_append, split, List.length_append, Nat.add_assoc]
            have place : ((state.cursor.advance spaces.length).advance taken.length).rest =
                left' ++ text := by
              rw [Cursor.rest_advance, behind, split, List.append_assoc, List.drop_left]
            have isLeft : IsGap left' := by
              have isBehind := IsGap.behind isGap
              rw [split] at isBehind
              exact IsGap.behind isBehind
            have shorter : left'.length < fuel := by omega
            rw [length, ← Cursor.advance_advance, ← Cursor.advance_advance, ends]
            split
            next =>
              exact ih (state.moveTo _) isLeft place shorter
            next =>
              obtain ⟨allowed, keeps, moved⟩ :=
                ih ((state.moveTo _).allowKey true) isLeft place shorter
              exact ⟨allowed, fun _ => keeps rfl, moved⟩
      next calm =>
        obtain rfl := not_ne_iff.1 fun some => calm (goesOn.2 some)
        exact ⟨state.keyAllowed, id, by rw [List.append_nil]; rfl⟩


/-- The state in which a step adds its token: it has moved over the white space, and keeps the
candidates that are not too old. -/
structure Arrives (state arrived : State) : Prop where
  allowed : state.keyAllowed = true → arrived.keyAllowed = true
  kept : ∀ candidate, state.candidate = some candidate → arrived.isStale candidate = false →
    arrived.candidate = some candidate
  step : state.step = if isEnd arrived.cursor.here then arrived.finish else arrived.addToken

namespace Inside

theorem dropStale (inside : state.Inside depth tokens text) :
    ∃ fresh, state.dropStale = .ok fresh ∧ fresh.Inside depth tokens text ∧
      fresh.cursor = state.cursor ∧ fresh.keyAllowed = state.keyAllowed ∧
      ∀ candidate, state.candidate = some candidate → state.isStale candidate = false →
        fresh.candidate = some candidate := by
  have none : (state.candidates.any fun candidate =>
      candidate.any state.isStale && candidate.any (·.required)) = false := by
    rw [List.any_eq_false]
    intro candidate member required
    cases candidate with
    | none => cases required
    | some candidate =>
        rw [Option.any_some, Option.any_some, inside.optional candidate member, Bool.and_false]
          at required
        cases required
  unfold State.dropStale
  dsimp only
  rw [none, if_neg Bool.false_ne_true]
  refine ⟨_, rfl, { inside with levels := ?_, optional := ?_ }, rfl, rfl, ?_⟩
  · exact (List.length_map _).trans inside.levels
  · intro candidate member
    obtain ⟨before, stands, same⟩ := List.mem_map.1 member
    split at same
    next => cases same
    next =>
      subst same
      exact inside.optional candidate stands
  · intro candidate found recent
    obtain ⟨others, same⟩ := inside.candidates_eq
    rw [found] at same
    simp [State.candidate, same, recent]

/-- A step moves over the white space. -/
theorem arrives (inside : state.Inside depth tokens text) (halts : Halts text) :
    ∃ arrived, Arrives state arrived ∧ arrived.Inside depth tokens text ∧
      arrived.cursor.rest = text ∧
      ∀ gap, state.cursor.rest = gap ++ text →
        arrived.cursor = state.cursor.advance gap.length := by
  -- Moving over the white space, dropping old candidates and ending blocks, in this order; there
  -- are no blocks to end.
  obtain ⟨gap, isGap, left⟩ := inside.before
  obtain ⟨allowed, keeps, moved⟩ := toNextToken_gap state isGap halts left
    (show gap.length < state.cursor.rest.length + 1 by rw [left, List.length_append]; omega)
  have place : (state.cursor.advance gap.length).rest = text := by
    rw [Cursor.rest_advance, left, List.drop_left]
  have isMoved : { state with
      cursor := state.cursor.advance gap.length, keyAllowed := allowed }.Inside depth tokens
      text := by
    refine { inside with before := ⟨[], nofun, place⟩, unmarked := ?_ }
    intro first
    have none : gap = [] ∧ state.cursor.index = 0 := by
      have moved : (state.cursor.advance gap.length).index = 0 := first
      rw [Cursor.index_advance (by rw [left, List.length_append]; omega)] at moved
      exact ⟨List.length_eq_zero_iff.1 (by omega), by omega⟩
    obtain ⟨rfl, first⟩ := none
    exact inside.unmarked first
  obtain ⟨fresh, dropped, isFresh, sameCursor, sameAllowed, kept⟩ := isMoved.dropStale
  refine ⟨fresh, ⟨?_, ?_, ?_⟩, isFresh, sameCursor ▸ place, ?_⟩
  · intro before
    rw [sameAllowed]
    exact keeps before
  · intro candidate found recent
    refine kept candidate found ?_
    rw [isStale, sameCursor] at recent
    exact recent
  · rw [step, inside.skipMark_eq]
    dsimp only
    rw [moved, dropped]
    exact congrArg (fun state : State => if isEnd state.cursor.here then state.finish
      else state.addToken) (isFresh.unwind_eq (by omega))
  · intro other same
    rw [sameCursor, List.append_cancel_right (left.symm.trans same)]

end Inside

/-! ## Tokens -/

/-- A word or number is read as a plain scalar. -/
theorem addToken_literal {word behind later : List Char} {c : Char}
    (isStart : c ∈ Json.literalStarts) (starts : word = c :: later ∨ word = '-' :: c :: later)
    (left : state.cursor.rest = word ++ behind) : state.addToken = state.addPlain := by
  have known : ∀ c ∈ Json.literalStarts,
      c ∉ ['%', '.', '-', '?', ':', ',', '[', ']', '\x7b', '\x7d', '#', '&', '*', '!', '|', '>',
        '\'', '"', '@', '\x60'] ∧ isBlankOrEnd c = false := by decide
  obtain ⟨noMark, visible⟩ := known c isStart
  simp only [List.mem_cons, List.not_mem_nil, or_false, not_or] at noMark
  rcases starts with rfl | rfl
  · simp [addToken, Cursor.isMarker, Cursor.here_of_rest left, noMark, visible, startsPlain]
  · have next : state.cursor.ahead 1 = c := by
      rw [Cursor.ahead, left]
      rfl
    simp [addToken, Cursor.isMarker, Cursor.here_of_rest left, next, noMark, visible, startsPlain]

namespace Inside

/-- A step that takes some characters and adds a token for them. -/
theorem advances (ready : State) (allowed : Bool) (token : Token) (c : Char) (taken : List Char)
    {arrived : State} {deeper : Nat} {before : List Token}
    (inside : state.Inside depth tokens (c :: taken ++ rest)) (arrives : Arrives state arrived)
    (left : arrived.cursor.rest = c :: taken ++ rest) (visible : isEnd c = false)
    (isReady : ready.Inside deeper before (c :: taken ++ rest))
    (sameCursor : ready.cursor = arrived.cursor) (goesOn : token ≠ .streamEnd)
    (added : arrived.addToken =
      .ok (((ready.allowKey allowed).skip (taken.length + 1)).push token)) :
    ∃ next, Advances state next ∧ next.Inside deeper (token :: before) rest ∧
      next.keyAllowed = allowed ∧ next.candidate = ready.candidate ∧
      next.cursor = arrived.cursor.advance (taken.length + 1) := by
  have moved : (ready.cursor.advance (taken.length + 1)).rest = rest := by
    rw [Cursor.rest_advance, sameCursor, left]
    exact List.drop_left' (List.length_cons)
  refine ⟨((ready.allowKey allowed).skip (taken.length + 1)).push token, ⟨?_, ?_, ?_⟩, ?_, rfl, rfl,
    congrArg (Cursor.advance (taken.length + 1)) sameCursor⟩
  · rw [arrives.step, Cursor.here_of_rest left, visible, if_neg Bool.false_ne_true, added]
  · exact fun same => goesOn (Option.some.inj same)
  · obtain ⟨gap, _, same⟩ := inside.before
    show (ready.cursor.advance (taken.length + 1)).rest.length < _
    rw [moved, same]
    simp only [List.length_append, List.length_cons]
    omega
  · exact {
      before := ⟨[], nofun, moved⟩
      unmarked := by
        intro first
        have index : (ready.cursor.advance (taken.length + 1)).index = 0 := first
        rw [Cursor.index_advance (by rw [sameCursor, left]; simp)] at index
        omega
      levels := isReady.levels
      optional := isReady.optional
      added := congrArg (token :: ·) isReady.added
      counted := congrArg (· + 1) isReady.counted
      unindented := isReady.unindented }

/-- A flow collection starts. -/
theorem opens (kind : FlowKind) (inside : state.Inside depth tokens (kind.opening :: rest)) :
    ∃ next, Advances state next ∧ next.Inside (depth + 1) (kind.start :: tokens) rest ∧
      next.keyAllowed = true := by
  have halts : Halts (kind.opening :: rest) := halts_cons (by cases kind <;> decide) rest
  obtain ⟨arrived, arrives, isArrived, left, _⟩ := inside.arrives halts
  obtain ⟨saved, isSaved, isInside, sameCursor, _⟩ := isArrived.saveCandidate
  have entered : { saved with candidates := none :: saved.candidates }.Inside (depth + 1) tokens
      (kind.opening :: rest) :=
    { isInside with
      levels := congrArg (· + 1) isInside.levels
      optional := fun candidate member => by
        rcases List.mem_cons.1 member with first | behind
        · cases first
        · exact isInside.optional candidate behind }
  have added : arrived.addToken = arrived.openFlow kind.start := by
    cases kind <;> simp [addToken, Cursor.isMarker, Cursor.here_of_rest left, FlowKind.opening,
      FlowKind.start]
  rw [openFlow, isSaved] at added
  have visible : isEnd kind.opening = false := by cases kind <;> rfl
  have goesOn : kind.start ≠ .streamEnd := by cases kind <;> rintro ⟨⟩
  obtain ⟨next, advances, isNext, allowed, _⟩ :=
    inside.advances { saved with candidates := none :: saved.candidates } true kind.start
      kind.opening
      [] arrives left visible entered sameCursor goesOn added
  exact ⟨next, advances, isNext, allowed⟩

/-- A flow collection ends. -/
theorem closes (kind : FlowKind) (inside : state.Inside (depth + 1) tokens (kind.closing :: rest)) :
    ∃ next, Advances state next ∧ next.Inside depth (kind.stop :: tokens) rest := by
  have halts : Halts (kind.closing :: rest) := halts_cons (by cases kind <;> decide) rest
  obtain ⟨arrived, arrives, isArrived, left, _⟩ := inside.arrives halts
  have cleared : (arrived.setCandidate none).Inside (depth + 1) tokens (kind.closing :: rest) :=
    isArrived.clearCandidate
  let ready := { arrived.setCandidate none with
    candidates := (arrived.setCandidate none).candidates.drop 1 }
  have outside : ready.Inside depth tokens (kind.closing :: rest) :=
    { cleared with
      levels := List.length_drop.trans (congrArg (· - 1) cleared.levels)
      optional := fun candidate member =>
        cleared.optional candidate (List.mem_of_mem_drop member) }
  have added : arrived.addToken = arrived.closeFlow kind.stop := by
    cases kind <;> simp [addToken, Cursor.isMarker, Cursor.here_of_rest left, FlowKind.closing,
      FlowKind.stop]
  rw [closeFlow, isArrived.dropCandidate_eq] at added
  replace added := added.trans (if_pos cleared.inFlow_eq)
  have visible : isEnd kind.closing = false := by cases kind <;> rfl
  have goesOn : kind.stop ≠ .streamEnd := by cases kind <;> rintro ⟨⟩
  obtain ⟨next, advances, isNext, _⟩ :=
    inside.advances ready false kind.stop kind.closing [] arrives left visible outside rfl goesOn
      added
  exact ⟨next, advances, isNext⟩

/-- A comma stands between items or entries. A key may start behind it. -/
theorem comma (inside : state.Inside depth tokens (',' :: rest)) :
    ∃ next, Advances state next ∧ next.Inside depth (.flowEntry :: tokens) rest ∧
      next.keyAllowed = true := by
  obtain ⟨arrived, arrives, isArrived, left, _⟩ := inside.arrives (halts_cons (by decide) rest)
  have isAllowed : (arrived.allowKey true).Inside depth tokens (',' :: rest) := { isArrived with }
  have cleared : ((arrived.allowKey true).setCandidate none).Inside depth tokens (',' :: rest) :=
    isAllowed.clearCandidate
  have added : arrived.addToken = arrived.addFlowEntry := by
    simp [addToken, Cursor.isMarker, Cursor.here_of_rest left]
  rw [addFlowEntry, isAllowed.dropCandidate_eq] at added
  obtain ⟨next, advances, isNext, allowed, _⟩ :=
    inside.advances _ true .flowEntry ',' [] arrives left rfl cleared rfl (by rintro ⟨⟩)
      added
  exact ⟨next, advances, isNext, allowed⟩

/-- A word or number is a scalar together with the white space behind it. -/
theorem literal {word : List Char} {scalar : RouteTypes.Scalar}
    (inside : state.Inside (depth + 1) tokens (word ++ (gap ++ rest)))
    (isLiteral : Json.Literal word scalar) (isGap : IsGap gap) (closes : Closes rest) :
    ∃ next, Advances state next ∧
      next.Inside (depth + 1) (.scalar (word.map .char) true :: tokens) rest := by
  obtain ⟨start, later, isStart, starts⟩ := isLiteral.starts
  have chars := isLiteral.chars
  obtain ⟨c, taken, rfl⟩ : ∃ c taken, word = c :: taken := by
    rcases starts with rfl | rfl <;> exact ⟨_, _, rfl⟩
  have known : ∀ c ∈ Json.literalChars,
      (isBreak c = false ∧ c ≠ ' ' ∧ c ≠ '#') ∧ isEnd c = false := by decide
  obtain ⟨stays, visible⟩ := known c (chars c List.mem_cons_self)
  obtain ⟨arrived, arrives, isArrived, left, _⟩ := inside.arrives (halts_cons stays _)
  obtain ⟨saved, isSaved, isInside, sameCursor, _⟩ := isArrived.saveCandidate
  obtain ⟨breaks, read⟩ := Lexeme.plain_literal chars (List.cons_ne_nil _ _) isGap closes
    (sameCursor ▸ left) saved.indent
  have added : arrived.addToken =
      .ok (((saved.allowKey breaks).skip ((taken ++ gap).length + 1)).push
        (.scalar ((c :: taken).map .char) true)) := by
    rw [addToken_literal isStart starts left, addPlain, isSaved]
    show Except.ok _ = _
    rw [isInside.inFlow_eq, read, List.length_append, Nat.add_right_comm]
    rfl
  -- The step takes the white space behind the word along with it.
  have same : c :: taken ++ (gap ++ rest) = c :: (taken ++ gap) ++ rest := by
    rw [List.cons_append, List.cons_append, List.append_assoc]
  rw [same] at inside isInside left
  obtain ⟨next, advances, isNext, _⟩ :=
    inside.advances saved breaks (.scalar ((c :: taken).map .char) true) c (taken ++ gap) arrives
      left
      visible isInside sameCursor (by rintro ⟨⟩) added
  exact ⟨next, advances, isNext⟩

/-- A string is a scalar. Where a key may start, its candidate remembers the place. -/
theorem quotes (inside : state.Inside (depth + 1) tokens ('"' :: text))
    (isQuoted : Lexeme.IsQuoted text points rest) :
    ∃ (place : Cursor) (next : State), place.rest = '"' :: text ∧ Advances state next ∧
      next.Inside (depth + 1) (.scalar points false :: tokens) rest ∧
      next.cursor = place.advance ((Json.splitString text).1.length + 2) ∧
      (state.keyAllowed = true → next.candidate =
        some ⟨tokens.length, false, place.index, place.line, place.column⟩) := by
  obtain ⟨arrived, arrives, isArrived, left, _⟩ := inside.arrives (halts_cons (by decide) text)
  obtain ⟨saved, isSaved, isInside, sameCursor, found⟩ := isArrived.saveCandidate
  have read := isQuoted.reads saved.cursor.next (Cursor.next_of_rest (sameCursor ▸ left))
  have isLexeme : arrived.addToken = arrived.addLexeme fun cursor =>
      (Lexeme.quoted true cursor.next).map fun read => (.scalar read.1 false, read.2) := by
    simp [addToken, Cursor.isMarker, Cursor.here_of_rest left]
  have added : arrived.addToken =
      .ok (((saved.allowKey false).skip (((Json.splitString text).1 ++ ['"']).length + 1)).push
        (.scalar points false)) := by
    rw [isLexeme, addLexeme, isSaved]
    show Except.bind (Except.map _ (Lexeme.quoted true saved.cursor.next)) _ = _
    rw [read, List.length_append]
    rfl
  have same : '"' :: text = '"' :: ((Json.splitString text).1 ++ ['"']) ++ rest := by
    rw [List.cons_append, List.append_assoc, List.singleton_append, ← isQuoted.whole]
  rw [same] at inside isInside
  obtain ⟨next, advances, isNext, _, kept, moved⟩ :=
    inside.advances saved false (.scalar points false) '"' ((Json.splitString text).1 ++ ['"'])
      arrives (left.trans same) rfl isInside sameCursor (by rintro ⟨⟩) added
  refine ⟨arrived.cursor, next, left, advances, isNext, ?_, ?_⟩
  · rw [moved, List.length_append]
    rfl
  · exact fun allowed => kept.trans (found (arrives.allowed allowed))

/-- In front of a colon, the token that the candidate remembers becomes a key, unless the candidate
is too old by then. -/
theorem colon {token : Token} {candidate : Candidate} {after : List Char}
    (inside : state.Inside (depth + 1) (token :: tokens) (gap ++ ':' :: after)) (isGap : IsGap gap)
    (left : state.cursor.rest = gap ++ ':' :: after) (found : state.candidate = some candidate)
    (place : candidate.tokens = tokens.length)
    (line : (state.cursor.advance gap.length).line = candidate.line)
    (near : (state.cursor.advance gap.length).index ≤ candidate.index + 1024) :
    ∃ next, Advances state next ∧
      next.Inside (depth + 1) (.value :: token :: .key :: tokens) after := by
  obtain ⟨arrived, arrives, isArrived, here, away⟩ :=
    (inside.behind_gap isGap).arrives (halts_cons (by decide) after)
  have recent : arrived.isStale candidate = false := by
    rw [isStale, away gap left, line, bne_self_eq_false, Bool.false_or, decide_eq_false_iff_not]
    exact Nat.not_lt.2 near
  have kept := arrives.kept candidate found recent
  -- Only the remembered token stands behind the place of the candidate, so the key goes in front
  -- of this token.
  let ready := (arrived.setCandidate none).insert candidate.tokens .key
  have cleared : (arrived.setCandidate none).Inside (depth + 1) (token :: tokens) (':' :: after) :=
    isArrived.clearCandidate
  have isReady : ready.Inside (depth + 1) (token :: .key :: tokens) (':' :: after) :=
    { cleared with
      added := by
        show _ ++ _ :: _ = _
        rw [cleared.added, cleared.counted, place, List.length_cons, Nat.add_sub_cancel_left]
        rfl
      counted := congrArg (· + 1) cleared.counted }
  have added : arrived.addToken = .ok (((ready.allowKey false).skip 1).push .value) := by
    have isValue : arrived.addToken = arrived.addValue := by
      simp [addToken, Cursor.isMarker, Cursor.here_of_rest here, isArrived.inFlow_eq]
    have noBlock : ¬(!ready.inFlow && ready.isDeeper candidate.column) = true := by
      rw [isReady.inFlow_eq]
      exact Bool.false_ne_true
    rw [isValue, addValue, kept]
    show Except.ok _ = _
    rw [if_neg noBlock]
  obtain ⟨next, advances, isNext, _⟩ :=
    (inside.behind_gap isGap).advances ready false .value ':' [] arrives here rfl isReady rfl
      (by rintro ⟨⟩) added
  exact ⟨next, advances, isNext⟩

/-- A string and the colon behind it become a key, where one may start and they are short enough and
on one line. -/
theorem name {after : List Char} (inside : state.Inside (depth + 1) tokens ('"' :: text))
    (allowed : state.keyAllowed = true)
    (isQuoted : Lexeme.IsQuoted text points (gap ++ ':' :: after)) (isGap : IsGap gap)
    (fits : Json.fitsKey (Json.splitString text).1 gap) :
    ∃ next, Reaches state next ∧
      next.Inside (depth + 1) (.value :: .scalar points false :: .key :: tokens) after := by
  obtain ⟨place, named, isPlace, first, isNamed, moved, found⟩ := inside.quotes isQuoted
  have isText := isQuoted.whole
  simp only [Json.fitsKey, Bool.and_eq_true, decide_eq_true_eq, List.all_eq_true,
    Bool.not_eq_true'] at fits
  obtain ⟨short, single⟩ := fits
  generalize (Json.splitString text).1 = raw at *
  have whole : place.rest = ('"' :: raw ++ '"' :: gap) ++ ':' :: after := by
    rw [isPlace, isText]
    simp
  have length : ('"' :: raw ++ '"' :: gap).length = raw.length + 2 + gap.length := by
    simp only [List.length_append, List.length_cons]
    omega
  have behind : named.cursor.rest = gap ++ ':' :: after := by
    rw [moved, Cursor.rest_advance, isPlace, isText, ← List.cons_append, List.append_cons]
    exact List.drop_left' (by simp)
  have atColon : named.cursor.advance gap.length =
      place.advance ('"' :: raw ++ '"' :: gap).length := by
    rw [moved, Cursor.advance_advance, length]
  have line : (place.advance ('"' :: raw ++ '"' :: gap).length).line = place.line := by
    refine Cursor.line_advance whole fun c member => ?_
    have known : c = '"' ∨ c ∈ raw ++ gap := by
      simp only [List.mem_append, List.mem_cons] at member ⊢
      tauto
    rcases known with rfl | member
    · rfl
    · exact single c member
  have index : (place.advance ('"' :: raw ++ '"' :: gap).length).index =
      place.index + ('"' :: raw ++ '"' :: gap).length := by
    refine Cursor.index_advance ?_
    rw [whole]
    simp
  have near : place.index + ('"' :: raw ++ '"' :: gap).length ≤ place.index + 1024 := by omega
  obtain ⟨next, second, isNext⟩ := isNamed.colon isGap behind (found allowed) rfl
    (by rw [atColon, line]) (by rw [atColon, index]; exact near)
  exact ⟨next, .tail (.single first) second, isNext⟩

/-- Behind the last collection the text ends. -/
theorem ends (inside : state.Inside 0 tokens []) :
    ∃ last, state.step = .ok last ∧ last.tokens = .streamEnd :: tokens := by
  obtain ⟨arrived, arrives, isArrived, left, _⟩ := inside.arrives nofun
  have isLast : arrived.cursor.here = '\x00' := by rw [Cursor.here, left]; rfl
  rw [arrives.step, isLast, if_pos (by rfl), finish, leaveBlocks,
    isArrived.unwind_eq (Int.le_refl _), isArrived.dropCandidate_eq]
  exact ⟨_, rfl, congrArg (Token.streamEnd :: ·) isArrived.added⟩

end Inside

theorem inside_start (unmarked : text.head? ≠ some '\uFEFF') :
    (start text).Inside 0 [] text where
  before := ⟨[], nofun, rfl⟩
  unmarked := by
    intro _ same
    rw [Cursor.here, List.headD_eq_head?_getD] at same
    cases text with
    | nil => exact absurd same (by decide)
    | cons c rest => exact unmarked (congrArg some same)
  levels := rfl
  optional := nofun
  added := rfl
  counted := rfl
  unindented := rfl

end State

/-! ## Runs -/

variable {state next : State}

/-- The tokens of a text that is one flow collection. -/
theorem scan_of_reaches {text : List Char} {tokens : List Token} (allowed : text.all isAllowed)
    (reaches : State.Reaches (.start text) next) (ends : next.Inside 0 tokens []) :
    scan text = tokens.reverse ++ [.streamEnd] := by
  obtain ⟨left, lasts, same⟩ := scanFrom_of_reaches reaches (Nat.lt_succ_self text.length)
  obtain ⟨last, step, isLast⟩ := ends.ends
  rw [scan, if_pos allowed, same]
  cases left with
  | zero => exact absurd lasts (Nat.not_lt_zero _)
  | succ left =>
      rw [scanFrom_succ, step]
      simp [isLast]

end Token

end RouteTypes.Yaml
