import Mathlib.Logic.Relation
import RouteTypes.Proofs.Yaml.Lexeme
import RouteTypes.Yaml.Token

/-!
# Where the division into tokens breaks off

The division of a text into tokens goes step by step (`Reaches`). Each step but the last takes a
character and adds tokens that can be read (`meets_step`), so it goes on until the text ends, is
malformed, or comes to a lexeme that cannot be read (`Stuck`). In this last case the tokens end in
one that tells why, and the ones in front of it are those that are sure to stand there
(`BreaksOff.scan`, `scanned_scan`).
-/

namespace RouteTypes.Yaml.Token

open Lexeme

/-- All of some tokens can be read. -/
def Readable (tokens : List Token) : Prop :=
  ∀ fault, .unreadable fault ∉ tokens

namespace State

/-- A state at a place, inside of a flow collection or not, whose tokens can all be read. -/
structure At (cursor : Cursor) (flow : Bool) (state : State) : Prop where
  place : state.cursor = cursor
  level : state.inFlow = flow
  readable : Readable state.tokens

/-- A state whose place stands in a text, and whose tokens can all be read. -/
structure Behind (text : List Char) (state : State) : Prop where
  within : state.cursor.Within text
  readable : Readable state.tokens

variable {text : List Char} {state : State} {cursor : Cursor} {flow : Bool}

theorem readable_push {tokens : List Token} (readable : Readable tokens) {token : Token}
    (new : ∀ fault, .unreadable fault ≠ token) : Readable (token :: tokens) := by
  intro fault member
  rcases List.mem_cons.1 member with same | member
  · exact new fault same
  · exact readable fault member

theorem Behind.push (behind : state.Behind text) {token : Token}
    (new : ∀ fault, .unreadable fault ≠ token) : (state.push token).Behind text :=
  ⟨behind.within, readable_push behind.readable new⟩

namespace At

theorem push (stands : state.At cursor flow) {token : Token}
    (new : ∀ fault, .unreadable fault ≠ token) : (state.push token).At cursor flow :=
  ⟨stands.place, stands.level, readable_push stands.readable new⟩

theorem insert (stands : state.At cursor flow) (position : Nat) (token : Token)
    (new : ∀ fault, .unreadable fault ≠ token) : (state.insert position token).At cursor flow where
  place := stands.place
  level := stands.level
  readable fault member := by
    rcases List.mem_append.1 member with before | after
    · exact stands.readable fault (List.mem_of_mem_take before)
    · rcases List.mem_cons.1 after with same | after
      · exact new fault same
      · exact stands.readable fault (List.mem_of_mem_drop after)

theorem allowKey (stands : state.At cursor flow) (allowed : Bool) :
    (state.allowKey allowed).At cursor flow :=
  ⟨stands.place, stands.level, stands.readable⟩

theorem setCandidate (stands : state.At cursor flow) (candidate : Option Candidate) :
    (state.setCandidate candidate).At cursor flow where
  place := stands.place
  level := by
    rw [← stands.level, inFlow, inFlow, State.setCandidate]
    cases state.candidates <;> simp
  readable := stands.readable

theorem indentTo (stands : state.At cursor flow) (column : Nat) :
    (state.indentTo column).At cursor flow :=
  ⟨stands.place, stands.level, stands.readable⟩

theorem openBlock (stands : state.At cursor flow) {token : Token}
    (new : ∀ fault, .unreadable fault ≠ token) : (state.openBlock token).At cursor flow := by
  unfold State.openBlock
  split
  next => exact (stands.push new).indentTo _
  next => exact stands

theorem closeBlocks (column : Int) (outer : List Int) (stands : state.At cursor flow) :
    (closeBlocks column outer state).At cursor flow := by
  have ended : (state.push .blockEnd).At cursor flow := stands.push nofun
  induction outer generalizing state with
  | nil =>
      unfold State.closeBlocks
      split
      next => exact ⟨ended.place, ended.level, ended.readable⟩
      next => exact stands
  | cons next rest ih =>
      unfold State.closeBlocks
      split
      next =>
        have closed : State.At cursor flow
            { state.push .blockEnd with indent := next, outer := rest } :=
          ⟨ended.place, ended.level, ended.readable⟩
        exact ih closed (closed.push nofun)
      next => exact stands

theorem unwind (stands : state.At cursor flow) (column : Int) :
    (state.unwind column).At cursor flow := by
  unfold State.unwind
  split
  next => exact stands
  next => exact stands.closeBlocks column _

/-- Moving to another place ends in front of it. -/
theorem moveTo (stands : state.At cursor flow) {place : Cursor} (inside : place.Within text) :
    (state.moveTo place).Behind text :=
  ⟨inside, stands.readable⟩

theorem skip (stands : state.At cursor flow) (count : Nat) (inside : cursor.next.Within text) :
    (state.skip (count + 1)).Behind text := by
  refine stands.moveTo ?_
  rw [stands.place]
  exact inside.advance count

end At

/-! ## Between tokens -/

theorem behind_skipMark (behind : state.Behind text) : state.skipMark.Behind text := by
  unfold skipMark
  split
  next => exact ⟨behind.within.advance 1, behind.readable⟩
  next => exact behind

theorem behind_toNextToken (fuel : Nat) (behind : state.Behind text) :
    (toNextToken fuel state).Behind text := by
  induction fuel generalizing state with
  | zero => exact behind
  | succ fuel ih =>
      have after : state.cursor.skipSpaces.skipComment.Within text :=
        (behind.within.skip _).skipComment
      unfold toNextToken
      dsimp only
      split
      next =>
        refine ih ?_
        split
        next => exact ⟨after.lineEnd, behind.readable⟩
        next => exact ⟨after.lineEnd, behind.readable⟩
      next => exact ⟨after, behind.readable⟩

/-- The state in front of the next token, once the blocks that this one does not belong to are
ended. -/
def ready (state : State) : Except Fault State := do
  let state := toNextToken (state.cursor.rest.length + 1) state.skipMark
  let state ← state.dropStale
  return state.unwind state.cursor.column

theorem step_eq_ready (state : State) :
    state.step = state.ready >>= fun state =>
      if isEnd state.cursor.here then state.finish else state.addToken := by
  unfold step ready
  dsimp only
  cases (toNextToken (state.cursor.rest.length + 1) state.skipMark).dropStale <;> rfl

theorem reads_dropStale (behind : state.Behind text) : Reads (Behind text) state.dropStale := by
  unfold dropStale
  dsimp only
  split
  next => exact reads_malformed
  next => exact ⟨behind.within, behind.readable⟩

theorem behind_unwind (behind : state.Behind text) (column : Int) :
    (state.unwind column).Behind text := by
  have unwound : (state.unwind column).At state.cursor state.inFlow :=
    At.unwind ⟨rfl, rfl, behind.readable⟩ column
  exact ⟨unwound.place ▸ behind.within, unwound.readable⟩

theorem reads_ready (behind : state.Behind text) : Reads (Behind text) state.ready := by
  refine (reads_dropStale (behind_toNextToken _ (behind_skipMark behind))).bind ?_
  exact fun _ moved => behind_unwind moved _

/-! ## Tokens -/

theorem reads_dropCandidate (stands : state.At cursor flow) :
    Reads (At cursor flow) state.dropCandidate := by
  unfold dropCandidate
  split
  next =>
    split
    next => exact reads_malformed
    next => exact stands.setCandidate none
  next => exact stands

theorem reads_saveCandidate (stands : state.At cursor flow) :
    Reads (At cursor flow) state.saveCandidate := by
  unfold saveCandidate
  split
  next =>
    refine (reads_dropCandidate stands).bind ?_
    exact fun _ stands => stands.setCandidate _
  next => exact stands

theorem reads_leaveBlocks (stands : state.At cursor flow) :
    Reads (At cursor flow) state.leaveBlocks := by
  refine (reads_dropCandidate (stands.unwind (-1))).bind ?_
  exact fun _ stands => stands.allowKey false

theorem reads_openMarked (stands : state.At cursor flow) (block : Token)
    (new : ∀ fault, .unreadable fault ≠ block) :
    Reads (At cursor flow) (state.openMarked block) := by
  unfold openMarked
  split
  next => exact stands
  next =>
    split
    next => exact stands.openBlock new
    next => exact reads_malformed

theorem readable_finish (readable : Readable state.tokens) :
    Reads (fun next => Readable next.tokens ∧ next.tokens.head? = some .streamEnd)
      state.finish := by
  refine (reads_leaveBlocks ⟨rfl, rfl, readable⟩).bind ?_
  exact fun _ stands => ⟨readable_push stands.readable nofun, rfl⟩

section Marks

variable (stands : state.At cursor flow) (inside : cursor.next.Within text)
include stands inside

theorem reads_addSeparator {token : Token} (new : ∀ fault, .unreadable fault ≠ token) :
    Reads (Behind text) (state.addSeparator token) := by
  refine (reads_leaveBlocks stands).bind ?_
  exact fun _ stands => (stands.skip 2 inside).push new

theorem reads_openFlow {token : Token} (new : ∀ fault, .unreadable fault ≠ token) :
    Reads (Behind text) (state.openFlow token) := by
  refine (reads_saveCandidate stands).bind ?_
  intro saved stands
  have deeper : State.At cursor _ { saved with candidates := none :: saved.candidates } :=
    ⟨stands.place, rfl, stands.readable⟩
  exact ((deeper.allowKey true).skip 0 inside).push new

theorem reads_closeFlow {token : Token} (new : ∀ fault, .unreadable fault ≠ token) :
    Reads (Behind text) (state.closeFlow token) := by
  refine (reads_dropCandidate stands).bind ?_
  intro dropped stands
  split
  next =>
    have higher : State.At cursor _ { dropped with candidates := dropped.candidates.drop 1 } :=
      ⟨stands.place, rfl, stands.readable⟩
    exact ((higher.allowKey false).skip 0 inside).push new
  next => exact reads_malformed

theorem reads_addFlowEntry : Reads (Behind text) state.addFlowEntry := by
  refine (reads_dropCandidate (stands.allowKey true)).bind ?_
  exact fun _ stands => (stands.skip 0 inside).push nofun

theorem reads_addBlockEntry : Reads (Behind text) state.addBlockEntry := by
  refine (reads_openMarked stands .blockSequence nofun).bind ?_
  intro _ stands
  refine (reads_dropCandidate (stands.allowKey true)).bind ?_
  exact fun _ stands => (stands.skip 0 inside).push nofun

theorem reads_addKey : Reads (Behind text) state.addKey := by
  refine (reads_openMarked stands .blockMapping nofun).bind ?_
  intro _ stands
  refine (reads_dropCandidate (stands.allowKey _)).bind ?_
  exact fun _ stands => (stands.skip 0 inside).push nofun

theorem reads_addValue : Reads (Behind text) state.addValue := by
  unfold addValue
  split
  next candidate _ =>
    have keyed : State.At cursor flow ((state.setCandidate none).insert candidate.tokens .key) :=
      (stands.setCandidate none).insert _ .key nofun
    have opened : State.At cursor flow
        (if !((state.setCandidate none).insert candidate.tokens .key).inFlow &&
            ((state.setCandidate none).insert candidate.tokens .key).isDeeper candidate.column then
          (((state.setCandidate none).insert candidate.tokens .key).insert candidate.tokens
            .blockMapping).indentTo candidate.column
        else (state.setCandidate none).insert candidate.tokens .key) := by
      split
      next => exact (keyed.insert _ .blockMapping nofun).indentTo _
      next => exact keyed
    exact ((opened.allowKey false).skip 0 inside).push nofun
  next =>
    refine (reads_openMarked stands .blockMapping nofun).bind ?_
    intro _ stands
    refine (reads_dropCandidate (stands.allowKey _)).bind ?_
    exact fun _ stands => (stands.skip 0 inside).push nofun

theorem reads_addBlockScalar (folded : Bool) :
    Reads (Behind text) (state.addBlockScalar folded) := by
  refine (reads_dropCandidate (stands.allowKey true)).bind ?_
  intro dropped stands
  have after : dropped.cursor.next.Within text := stands.place ▸ inside
  refine (reads_block folded dropped.indent after).bind ?_
  exact fun _ after => (stands.moveTo after).push nofun

theorem meets_addDirective :
    Meets (fun fault => fault = .malformed ∨
        (∃ outside, state.leaveBlocks = .ok outside) ∧ LongVersion cursor.next fault)
      (Behind text) state.addDirective := by
  refine Meets.bind ((reads_leaveBlocks stands).given.imp (fun _ => .inl) fun _ => id) ?_
  rintro outside ⟨left, stands⟩
  rw [stands.place]
  refine Meets.bind ((meets_directive inside).imp ?_ fun _ => id) ?_
  · exact fun _ => Or.imp_right fun long => ⟨⟨outside, left⟩, long⟩
  · exact fun read after => (stands.moveTo after).push nofun

end Marks

/-- A lexeme gives a token, when its reader ends within the text and the token can be read. -/
theorem meets_addLexeme {α : Type} (lexeme : Cursor → Except Fault (α × Cursor)) (made : α → Token)
    (stands : state.At cursor flow) {reason : Fault → Prop}
    (reads : Meets reason (Ends text) (lexeme cursor))
    (new : ∀ value fault, .unreadable fault ≠ made value) :
    Meets (fun fault => fault = .malformed ∨
        (∃ keyed, state.saveCandidate = .ok keyed) ∧ reason fault)
      (Behind text) (state.addLexeme fun cursor =>
        (lexeme cursor).map fun (found, cursor) => (made found, cursor)) := by
  refine Meets.bind ((reads_saveCandidate stands).given.imp (fun _ => .inl) fun _ => id) ?_
  rintro keyed ⟨saved, stands⟩
  rw [stands.place]
  dsimp only
  cases found : lexeme cursor with
  | error fault => exact .inr ⟨⟨keyed, saved⟩, reads.of_error found⟩
  | ok value =>
      have after : value.2.Within text := reads.of_ok found
      exact ((stands.allowKey false).moveTo after).push (new value.1)

/-- What starts a plain scalar does not end one. -/
theorem endsPlain_of_startsPlain {c : Char} {tail : List Char}
    (left : state.cursor.rest = c :: tail) (starts : state.startsPlain = true) :
    c ≠ '#' ∧ endsPlain state.inFlow c (tail.headD '\x00') = false := by
  have next : state.cursor.ahead 1 = tail.headD '\x00' := by
    rw [Cursor.ahead, left]
    rfl
  simp only [startsPlain, Cursor.here_of_rest left, next, Bool.or_eq_true, Bool.and_eq_true,
    Bool.not_eq_true', Bool.or_eq_false_iff, List.contains_eq_mem,
    decide_eq_false_iff_not] at starts
  unfold endsPlain
  rcases starts with ⟨notBlank, noMark⟩ | ⟨goesOn, marks⟩
  · have other (mark : Char) (known : mark ∈ "-?:,[]\x7b\x7d#&*!|>'\"%@`".toList) : c ≠ mark := by
      rintro rfl
      exact noMark known
    have inner : ",?[]\x7b\x7d".toList.contains c = false := by
      have within : ∀ mark ∈ ",?[]\x7b\x7d".toList, mark ∈ "-?:,[]\x7b\x7d#&*!|>'\"%@`".toList := by
        decide
      rw [List.contains_eq_mem, decide_eq_false_iff_not]
      exact fun member => noMark (within c member)
    refine ⟨other '#' (by decide), ?_⟩
    rw [notBlank, beq_false_of_ne (other ':' (by decide)), inner]
    simp
  · rcases marks with dash | ⟨outside, mark⟩
    · rw [beq_iff_eq] at dash
      subst dash
      refine ⟨by decide, ?_⟩
      cases state.inFlow <;> rfl
    · rw [outside]
      rcases mark with mark | mark <;> rw [beq_iff_eq] at mark <;> subst mark
      · exact ⟨by decide, rfl⟩
      · refine ⟨by decide, ?_⟩
        rw [goesOn]
        rfl

/-- The token at the place cannot be read, though nothing shows that the text is malformed: it is a
version of the language with a number that is too long, or a scalar with an escape that stands for
no character. -/
inductive Stuck (state : State) : Fault → Prop where
  | directive {outside : State} {fault : Fault} (margin : state.cursor.column = 0)
      (mark : state.cursor.here = '%') (left : state.leaveBlocks = .ok outside)
      (long : LongVersion state.cursor.next fault) : Stuck state fault
  | quoted {keyed : State} {fault : Fault} (quote : state.cursor.here = '"')
      (saved : state.saveCandidate = .ok keyed) (broken : BrokenQuoted state.cursor.next fault) :
      Stuck state fault

theorem reads_addPlain {c : Char} {tail : List Char} (readable : Readable state.tokens)
    (left : state.cursor.rest = c :: tail) (starts : state.startsPlain = true) :
    Reads (Behind tail) state.addPlain := by
  refine (reads_saveCandidate ⟨rfl, rfl, readable⟩).bind ?_
  intro saved stands
  obtain ⟨noComment, goesOn⟩ := endsPlain_of_startsPlain left starts
  have after : (plain saved.inFlow saved.indent saved.cursor).cursor.Within tail := by
    rw [stands.place, stands.level]
    exact within_plain _ left noComment goesOn
  exact ((stands.allowKey _).moveTo after).push nofun

/-- A token takes a character and can be read, unless the text is malformed or the reading is
stuck. -/
theorem meets_addToken {c : Char} {tail : List Char} (readable : Readable state.tokens)
    (left : state.cursor.rest = c :: tail) :
    Meets (fun fault => fault = .malformed ∨ Stuck state fault) (Behind tail) state.addToken := by
  have stands : state.At state.cursor state.inFlow := ⟨rfl, rfl, readable⟩
  have inside := Cursor.within_next left
  have malformed {step : Except Fault State} (reads : Reads (Behind tail) step) :
      Meets (fun fault => fault = .malformed ∨ Stuck state fault) (Behind tail) step :=
    reads.imp (fun _ => .inl) fun _ => id
  have lexeme {α : Type} {read : Cursor → Except Fault (α × Cursor)} (made : α → Token)
      (reads : Reads (Ends tail) (read state.cursor))
      (new : ∀ value fault, .unreadable fault ≠ made value) :
      Reads (Behind tail) (state.addLexeme fun cursor =>
        (read cursor).map fun (found, cursor) => (made found, cursor)) :=
    (meets_addLexeme read made stands reads new).imp (fun _ why => why.elim id And.right)
      fun _ => id
  unfold addToken
  dsimp only
  -- One alternative for each mark, in the order in which they are tried.
  refine .branch (fun marked => ?_) fun _ => ?_
  · rw [Bool.and_eq_true, beq_iff_eq, beq_iff_eq] at marked
    refine (meets_addDirective stands inside).imp (fun fault => Or.imp_right ?_) fun _ => id
    exact fun ⟨⟨_, left⟩, long⟩ => .directive marked.1 marked.2 left long
  refine .ite (malformed (reads_addSeparator stands inside nofun)) ?_
  refine .ite (malformed (reads_addSeparator stands inside nofun)) ?_
  refine .ite (malformed (reads_openFlow stands inside nofun)) ?_
  refine .ite (malformed (reads_openFlow stands inside nofun)) ?_
  refine .ite (malformed (reads_closeFlow stands inside nofun)) ?_
  refine .ite (malformed (reads_closeFlow stands inside nofun)) ?_
  refine .ite (malformed (reads_addFlowEntry stands inside)) ?_
  refine .ite (malformed (reads_addBlockEntry stands inside)) ?_
  refine .ite (malformed (reads_addKey stands inside)) ?_
  refine .ite (malformed (reads_addValue stands inside)) ?_
  refine .ite (malformed (lexeme .alias (reads_anchor inside) nofun)) ?_
  refine .ite (malformed (lexeme .anchor (reads_anchor inside) nofun)) ?_
  refine .ite (malformed (lexeme .tag (reads_tag inside) nofun)) ?_
  refine .ite (malformed (reads_addBlockScalar stands inside false)) ?_
  refine .ite (malformed (reads_addBlockScalar stands inside true)) ?_
  refine .ite ?_ (.branch (fun starts => malformed (reads_addPlain readable left starts)) ?_)
  · have reads := meets_quoted (state.cursor.here == '"') inside
    refine (meets_addLexeme (fun cursor => quoted (state.cursor.here == '"') cursor.next)
      (fun found => .scalar found false) stands reads nofun).imp ?_ fun _ => id
    intro fault stopped
    refine stopped.elim .inl fun ⟨⟨_, saved⟩, why⟩ => why.imp_right fun ⟨quote, broken⟩ => ?_
    exact .quoted (eq_of_beq quote) saved broken
  · exact fun _ => .inl rfl

theorem addToken_of_stuck {fault : Fault} (readable : Readable state.tokens)
    (stuck : Stuck state fault) : state.addToken = .error fault := by
  have stands : state.At state.cursor state.inFlow := ⟨rfl, rfl, readable⟩
  unfold addToken
  dsimp only
  cases stuck with
  | directive margin mark left long =>
      have same := ((reads_leaveBlocks stands).of_ok left).place
      rw [if_pos (by simp [margin, mark]), addDirective, left]
      dsimp only [bind, Except.bind]
      rw [same, directive_of_long long]
  | quoted quote saved broken =>
      have same := ((reads_saveCandidate stands).of_ok saved).place
      have failed := quoted_of_broken broken
      simp only [quote, Cursor.isMarker, addLexeme, saved, bind, Except.bind, same, Except.map]
      simp [failed]

/-- A step adds tokens that can be read. It ends the division or takes a character, unless the text
is malformed or the reading is stuck. -/
theorem meets_step (readable : Readable state.tokens) :
    Meets (fun fault => fault = .malformed ∨ ∃ ready, state.ready = .ok ready ∧ Stuck ready fault)
      (fun next => Readable next.tokens ∧ (next.tokens.head? = some .streamEnd ∨
        next.cursor.rest.length < state.cursor.rest.length))
      state.step := by
  have behind : state.Behind state.cursor.rest := ⟨List.suffix_rfl, readable⟩
  rw [step_eq_ready]
  refine Meets.bind ((reads_ready behind).given.imp (fun _ => .inl) fun _ => id) ?_
  rintro ready ⟨isReady, stands⟩
  refine .branch (fun _ => ?_) fun notEnd => ?_
  · refine (readable_finish stands.readable).imp (fun _ => .inl) ?_
    exact fun next ⟨readable, ended⟩ => ⟨readable, .inl ended⟩
  · have left : ready.cursor.rest = ready.cursor.here :: ready.cursor.next.rest := by
      refine Cursor.rest_of_here rfl fun ended => notEnd ?_
      rw [ended]
      rfl
    refine (meets_addToken stands.readable left).imp ?_ fun next after => ⟨after.readable, .inr ?_⟩
    · exact fun fault => Or.imp_right fun stuck => ⟨ready, isReady, stuck⟩
    · have shorter : ready.cursor.next.rest.length < ready.cursor.rest.length := by
        rw [left, List.length_cons]
        exact Nat.lt_succ_self _
      exact Nat.lt_of_le_of_lt after.within.length_le
        (Nat.lt_of_lt_of_le shorter stands.within.length_le)

theorem step_of_stuck {ready : State} {fault : Fault} (readable : Readable state.tokens)
    (isReady : state.ready = .ok ready) (stuck : Stuck ready fault) :
    state.step = .error fault := by
  have behind : state.Behind state.cursor.rest := ⟨List.suffix_rfl, readable⟩
  have stands := (reads_ready behind).of_ok isReady
  have notEnd : isEnd ready.cursor.here = false := by
    cases stuck with
    | directive _ mark => rw [mark]; rfl
    | quoted quote => rw [quote]; rfl
  rw [step_eq_ready, isReady]
  dsimp only [bind, Except.bind]
  rw [notEnd, if_neg Bool.false_ne_true, addToken_of_stuck stands.readable stuck]

/-! ## The whole division -/

/-- One step of the division, which takes characters from the text and does not end it. -/
structure Advances (state next : State) : Prop where
  step : state.step = .ok next
  goesOn : next.tokens.head? ≠ some .streamEnd
  shorter : next.cursor.rest.length < state.cursor.rest.length

/-- Some steps of the division. -/
abbrev Reaches : State → State → Prop :=
  Relation.ReflTransGen Advances

theorem readable_start (text : List Char) : Readable (start text).tokens :=
  nofun

theorem Reaches.readable {next : State} (reaches : Reaches state next)
    (readable : Readable state.tokens) : Readable next.tokens := by
  induction reaches with
  | refl => exact readable
  | tail _ advances ih => exact ((meets_step ih).of_ok advances.step).1

end State

theorem scanFrom_succ (fuel : Nat) (state : State) :
    scanFrom (fuel + 1) state =
      match state.step with
      | .error fault => state.brokenOff fault
      | .ok next =>
        if next.tokens.head? == some .streamEnd then next.tokens.reverse
        else scanFrom fuel next := by
  rfl

variable {text : List Char} {state : State}

/-- The division goes on with the state that some steps reach: each step takes a character, so the
fuel lasts until then, and behind it. -/
theorem scanFrom_of_reaches {next : State} (reaches : State.Reaches state next) {fuel : Nat}
    (enough : state.cursor.rest.length < fuel) :
    ∃ left, next.cursor.rest.length < left ∧ scanFrom fuel state = scanFrom left next := by
  induction reaches using Relation.ReflTransGen.head_induction_on generalizing fuel with
  | refl => exact ⟨fuel, enough, rfl⟩
  | head advances _ ih =>
      cases fuel with
      | zero => exact absurd enough (Nat.not_lt_zero _)
      | succ fuel =>
          obtain ⟨left, lasts, same⟩ :=
            ih (Nat.lt_of_lt_of_le advances.shorter (Nat.le_of_lt_succ enough))
          refine ⟨left, lasts, ?_⟩
          rw [scanFrom_succ, advances.step, ← same]
          exact if_neg (by simpa using advances.goesOn)

/-- The division of a text comes to a token that cannot be read, and these are the ones that are
sure to stand in front of it. -/
inductive BreaksOff (text : List Char) : List Token → Fault → Prop where
  | intro {state ready : State} {fault : Fault} (allowed : text.all isAllowed = true)
      (reaches : State.Reaches (.start text) state) (isReady : state.ready = .ok ready)
      (stuck : ready.Stuck fault) :
      BreaksOff text (state.tokens.reverse.take state.settled) fault

theorem BreaksOff.scan {front : List Token} {fault : Fault} (breaks : BreaksOff text front fault) :
    scan text = front ++ [.unreadable fault] := by
  obtain ⟨allowed, reaches, isReady, stuck⟩ := breaks
  obtain ⟨left, lasts, same⟩ := scanFrom_of_reaches reaches (Nat.lt_succ_self text.length)
  obtain ⟨left, rfl⟩ := Nat.exists_eq_add_one_of_ne_zero (Nat.ne_zero_of_lt lasts)
  rw [Token.scan, if_pos allowed, same, scanFrom_succ,
    State.step_of_stuck (reaches.readable (State.readable_start text)) isReady stuck]
  rfl

/-- The tokens of a text can all be read, or the last one tells why the others go no further. -/
inductive Scanned (text : List Char) : List Token → Prop where
  | whole {tokens : List Token} (readable : Readable tokens) : Scanned text tokens
  | malformed {front : List Token} (readable : Readable front) :
      Scanned text (front ++ [.unreadable .malformed])
  | breaksOff {front : List Token} {fault : Fault} (readable : Readable front)
      (breaks : BreaksOff text front fault) : Scanned text (front ++ [.unreadable fault])

theorem scanned_of_scanFrom (allowed : text.all isAllowed = true)
    (reaches : State.Reaches (.start text) state) (fuel : Nat) :
    Scanned text (scanFrom fuel state) := by
  have readable := reaches.readable (State.readable_start text)
  have settled : Readable (state.tokens.reverse.take state.settled) :=
    fun fault member => readable fault (List.mem_reverse.1 (List.mem_of_mem_take member))
  induction fuel generalizing state with
  | zero => exact .malformed settled
  | succ fuel ih =>
      have step := State.meets_step readable
      rw [scanFrom_succ]
      cases added : state.step with
      | error fault =>
          rcases step.of_error added with rfl | ⟨ready, isReady, stuck⟩
          · exact .malformed settled
          · exact .breaksOff settled (.intro allowed reaches isReady stuck)
      | ok next =>
          obtain ⟨readableNext, shorter⟩ := step.of_ok added
          have inOrder (front : List Token) (isFront : ∀ token ∈ front, token ∈ next.tokens) :
              Readable front := fun fault member => readableNext fault (isFront _ member)
          dsimp only
          split
          next => exact .whole (inOrder _ fun _ => List.mem_reverse.1)
          next goesOn =>
            have goesOn : next.tokens.head? ≠ some .streamEnd := by simpa using goesOn
            exact ih (reaches.tail ⟨added, goesOn, shorter.resolve_left goesOn⟩) readableNext
              (inOrder _ fun _ member => List.mem_reverse.1 (List.mem_of_mem_take member))

theorem scanned_scan (text : List Char) : Scanned text (scan text) := by
  unfold scan
  split
  next allowed => exact scanned_of_scanFrom allowed .refl _
  next => exact @Scanned.malformed text [] nofun

end RouteTypes.Yaml.Token
