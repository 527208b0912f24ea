import RouteTypes.Proofs.Yaml.Cursor

/-!
# Where lexemes end, and which cannot be read

Every reader of a lexeme ends within the text or finds it malformed. There is one lemma for each
reader. Two lexemes may be well formed and still not be read: the version of a directive, for the
length of its numbers (`LongVersion`), and a scalar with double quotes, for an escape that stands
for no character (`BrokenQuoted`).
-/

namespace RouteTypes.Yaml.Lexeme

variable {text : List Char} {cursor : Cursor}

/-! ## Names and tags -/

theorem reads_require (test : Char → Bool) (cursor : Cursor) :
    Reads (fun _ => True) (require test cursor) := by
  unfold require
  split
  next => trivial
  next => exact reads_malformed

@[simp] theorem require_eq_ok (test : Char → Bool) {given : Unit} :
    require test cursor = .ok given ↔ test cursor.here = true := by
  unfold require
  split <;> simp [*]

theorem reads_name (inside : cursor.Within text) : Reads (Ends text) (name cursor) := by
  unfold name
  split
  next => exact reads_malformed
  next => exact inside.skip isNameChar

theorem reads_anchor (inside : cursor.Within text) : Reads (Ends text) (anchor cursor) := by
  refine (reads_name inside).bind ?_
  intro read after
  refine (reads_require _ _).bind ?_
  exact fun _ _ => after

theorem reads_percentBytes (fuel : Nat) (inside : cursor.Within text) :
    Reads (Ends text) (percentBytes fuel cursor) := by
  induction fuel generalizing cursor with
  | zero => exact inside
  | succ fuel ih =>
      unfold percentBytes
      split
      next =>
        split
        next =>
          refine (ih (inside.advance 3)).bind ?_
          exact fun _ after => after
        next => exact reads_malformed
      next => exact inside

theorem reads_tagChars (fuel : Nat) (inside : cursor.Within text) :
    Reads (Ends text) (tagChars fuel cursor) := by
  induction fuel generalizing cursor with
  | zero => exact inside
  | succ fuel ih =>
      unfold tagChars
      split
      next =>
        refine (reads_percentBytes _ inside).bind ?_
        intro read after
        dsimp only
        split
        next => exact reads_malformed
        next =>
          refine (ih after).bind ?_
          exact fun _ after => after
      next =>
        split
        next =>
          refine (ih inside.next).bind ?_
          exact fun _ after => after
        next => exact inside

theorem reads_tagPart (inside : cursor.Within text) : Reads (Ends text) (tagPart cursor) := by
  unfold tagPart
  split
  next => exact reads_tagChars _ inside
  next => exact reads_malformed

theorem reads_tagHandle (inside : cursor.next.Within text) :
    Reads (Ends text) (tagHandle cursor) := by
  unfold tagHandle
  have after : (cursor.next.span isNameChar).2.Within text := inside.skip isNameChar
  split
  next =>
    dsimp only
    split
    next => exact after.next
    next =>
      split
      next => exact after
      next => exact reads_malformed
  next => exact reads_malformed

/-- A tag takes its mark. -/
theorem reads_tag (inside : cursor.next.Within text) : Reads (Ends text) (tag cursor) := by
  have closed (read : RawTag × Cursor) (after : read.2.Within text) :
      Reads (Ends text) (do require isSpaceOrEnd read.2; pure read) := by
    refine (reads_require _ _).bind ?_
    exact fun _ _ => after
  unfold tag
  dsimp only
  split
  next =>
    refine (reads_tagPart (inside.advance 1)).bind ?_
    intro read after
    refine (reads_require _ _).bind fun _ _ => ?_
    exact closed (⟨none, read.1⟩, read.2.next) (Cursor.Within.next after)
  next =>
    split
    next => exact closed (⟨none, ['!']⟩, cursor.next) inside
    next =>
      split
      next =>
        refine (reads_tagHandle inside).bind ?_
        intro handle after
        refine (reads_tagPart after).bind ?_
        exact fun read after => closed (⟨some handle.1, read.1⟩, read.2) after
      next =>
        refine (reads_tagPart inside).bind ?_
        exact fun read after => closed (⟨some ['!'], read.1⟩, read.2) after

/-! ## Directives -/

/-- The number at the place has more digits than may be. -/
inductive LongNumber (cursor : Cursor) : Fault → Prop where
  | intro (long : Number.maxDigits < (cursor.span Char.isDigit).1.length) :
      LongNumber cursor (.number (.tooLong (cursor.span Char.isDigit).1.length))

theorem meets_decimal (inside : cursor.Within text) :
    Meets (fun fault => fault = .malformed ∨ LongNumber cursor fault) (Ends text)
      (decimal cursor) := by
  unfold decimal
  split
  next => exact .inl rfl
  next digits after nonempty spanned =>
    cases spanned
    split
    next long => exact .inr (.intro long)
    next => exact inside.skip Char.isDigit

theorem decimal_of_long {fault : Fault} (long : LongNumber cursor fault) :
    decimal cursor = .error fault := by
  obtain ⟨long⟩ := long
  unfold decimal
  split
  next none =>
    rw [none] at long
    cases long
  next digits after _ spanned =>
    rw [spanned] at long ⊢
    exact if_pos long

theorem reads_restOfLine (inside : cursor.Within text) :
    Reads (Cursor.Within text) (restOfLine cursor) := by
  refine (reads_require _ _).bind ?_
  exact fun _ _ => (inside.skip _).skipComment.lineEnd

/-- A directive, behind its mark, gives the version of the language with a number that is too
long. -/
inductive LongVersion (cursor : Cursor) (fault : Fault) : Prop where
  | major {behind : Cursor} (named : name cursor = .ok ("YAML".toList, behind))
      (spaced : isSpaceOrEnd behind.here = true) (long : LongNumber behind.skipSpaces fault)
  | minor {behind point : Cursor} {major : Nat} (named : name cursor = .ok ("YAML".toList, behind))
      (spaced : isSpaceOrEnd behind.here = true)
      (read : decimal behind.skipSpaces = .ok (major, point)) (isPoint : point.here = '.')
      (long : LongNumber point.next fault)

theorem meets_directive (inside : cursor.Within text) :
    Meets (fun fault => fault = .malformed ∨ LongVersion cursor fault) (Ends text)
      (directive cursor) := by
  have malformed {α : Type} {condition : α → Prop} {step : Except Fault α}
      (reads : Reads condition step) :
      Meets (fun fault => fault = .malformed ∨ LongVersion cursor fault) condition step :=
    reads.imp (fun _ => .inl) fun _ => id
  refine (malformed (reads_name inside)).given.bind ?_
  rintro ⟨name, behind⟩ ⟨named, after⟩
  refine (malformed (reads_require _ _)).given.bind ?_
  rintro _ ⟨spaced, _⟩
  replace spaced := (require_eq_ok _).1 spaced
  have value : Meets (fun fault => fault = .malformed ∨ LongVersion cursor fault) (Ends text)
      (directiveValue name behind) := by
    unfold directiveValue
    split
    next isVersion =>
      rw [eq_of_beq isVersion] at named
      refine Meets.bind ((meets_decimal (after.skip _)).given.imp ?_ fun _ => id) ?_
      · exact fun _ => Or.imp_right (.major named spaced)
      rintro ⟨major, point⟩ ⟨read, after⟩
      refine (malformed (reads_require _ _)).given.bind ?_
      rintro _ ⟨isPoint, _⟩
      replace isPoint := eq_of_beq ((require_eq_ok (· == '.')).1 isPoint)
      refine Meets.bind ((meets_decimal (Cursor.Within.next after)).imp ?_ fun _ => id) ?_
      · exact fun _ => Or.imp_right (.minor named spaced read isPoint)
      intro minor after
      refine malformed ((reads_require _ _).bind ?_)
      exact fun _ _ => after
    next =>
      split
      next =>
        refine malformed ((reads_tagHandle (after.skip _).next).bind ?_)
        intro handle after
        refine (reads_require _ _).bind fun _ _ => ?_
        refine (reads_tagPart (Cursor.Within.skip after _)).bind ?_
        intro start after
        refine (reads_require _ _).bind ?_
        exact fun _ _ => after
      next => exact after.skip _
  refine value.bind ?_
  intro read after
  refine malformed ((reads_restOfLine after).bind ?_)
  exact fun _ after => after

theorem directive_of_long {fault : Fault} (long : LongVersion cursor fault) :
    directive cursor = .error fault := by
  cases long with
  | major named spaced long =>
      simp [directive, directiveValue, named, require, spaced, decimal_of_long long, bind,
        Except.bind]
  | minor named spaced read isPoint long =>
      simp [directive, directiveValue, named, require, spaced, read, isPoint, decimal_of_long long,
        bind, Except.bind]

/-! ## Block scalars -/

theorem within_chomping (inside : cursor.Within text) : (chomping? cursor).2.Within text := by
  unfold chomping?
  split
  next => exact inside.next
  next =>
    split
    next => exact inside.next
    next => exact inside

theorem reads_increment (inside : cursor.Within text) :
    Reads (Ends text) (increment? cursor) := by
  unfold increment?
  dsimp only
  split
  next => exact reads_malformed
  next =>
    split
    next => exact inside.next
    next => exact inside

theorem reads_blockHeader (inside : cursor.Within text) :
    Reads (fun read => read.2.2.Within text) (blockHeader cursor) := by
  unfold blockHeader
  refine (reads_increment (within_chomping inside)).bind ?_
  intro increment after
  have late : (if (chomping? cursor).1.isNone && increment.1.isSome then chomping? increment.2
      else (none, increment.2)).2.Within text := by
    split
    next => exact within_chomping after
    next => exact after
  refine (reads_require _ _).bind fun _ _ => ?_
  refine (reads_restOfLine late).bind ?_
  exact fun _ after => after

theorem within_skipIndent (indent fuel : Nat) (inside : cursor.Within text) :
    (skipIndent indent fuel cursor).Within text := by
  induction fuel generalizing cursor with
  | zero => exact inside
  | succ fuel ih =>
      unfold skipIndent
      split
      next => exact ih inside.next
      next => exact inside

theorem within_emptyLines (indent fuel : Nat) (inside : cursor.Within text) :
    (emptyLines indent fuel cursor).2.Within text := by
  induction fuel generalizing cursor with
  | zero => exact inside
  | succ fuel ih =>
      unfold emptyLines
      dsimp only
      split
      next => exact ih (within_skipIndent _ _ inside).lineEnd
      next => exact within_skipIndent _ _ inside

theorem within_leadingLines (widest fuel : Nat) (inside : cursor.Within text) :
    (leadingLines widest fuel cursor).2.2.Within text := by
  induction fuel generalizing widest cursor with
  | zero => exact inside
  | succ fuel ih =>
      unfold leadingLines
      split
      next => exact ih _ inside.next
      next =>
        split
        next => exact ih _ inside.lineEnd
        next => exact inside

theorem within_blockLines (folded : Bool) (chomping : Chomping) (indent fuel : Nat)
    (breaks : List (List Char)) (inside : cursor.Within text) :
    (blockLines folded chomping indent fuel breaks cursor).2.Within text := by
  induction fuel generalizing breaks cursor with
  | zero => exact inside
  | succ fuel ih =>
      unfold blockLines
      have line : ((cursor.span (!isBreak ·)).2.lineEnd).2.Within text :=
        (inside.skip (!isBreak ·)).lineEnd
      dsimp only
      split
      next => exact ih _ (within_emptyLines _ _ line)
      next => exact within_emptyLines _ _ line

theorem reads_block (folded : Bool) (outer : Int) (inside : cursor.Within text) :
    Reads (Ends text) (block folded outer cursor) := by
  unfold block
  refine (reads_blockHeader inside).bind ?_
  rintro ⟨chomping, increment, cursor⟩ after
  cases increment with
  | some increment =>
      dsimp only
      split
      next => exact within_blockLines _ _ _ _ _ (within_emptyLines _ _ after)
      next => exact within_emptyLines _ _ after
  | none =>
      dsimp only
      split
      next => exact within_blockLines _ _ _ _ _ (within_leadingLines _ _ after)
      next => exact within_leadingLines _ _ after

/-! ## Quoted scalars -/

/-- An escape, behind its mark, has all of its digits, and they stand for no character. -/
inductive NoCharacter (cursor : Cursor) : Fault → Prop where
  | intro {count code : Nat} (letter : escapeLength? cursor.here = some count)
      (whole : count ≤ cursor.next.rest.length)
      (number : hexNumber? (cursor.next.rest.take count) = some code) (large : 0x110000 ≤ code) :
      NoCharacter cursor (.character code)

theorem meets_numericEscape {count : Nat} (letter : escapeLength? cursor.here = some count)
    (inside : cursor.next.Within text) :
    Meets (fun fault => fault = .malformed ∨ NoCharacter cursor fault) (Ends text)
      (numericEscape count cursor.next) := by
  unfold numericEscape
  dsimp only
  split
  next => exact .inl rfl
  next code found =>
    split
    next => exact .inl rfl
    next enough =>
      rw [List.length_take, Nat.not_lt] at enough
      split
      next large =>
        exact .inr (.intro letter (Nat.le_trans enough (Nat.min_le_right _ _)) found large)
      next => exact inside.advance count

theorem reads_quotedBreaks (fuel : Nat) (inside : cursor.Within text) :
    Reads (Ends text) (quotedBreaks fuel cursor) := by
  induction fuel generalizing cursor with
  | zero => exact inside
  | succ fuel ih =>
      unfold quotedBreaks
      split
      next => exact reads_malformed
      next =>
        dsimp only
        split
        next =>
          refine (ih (inside.skip _).lineEnd).bind ?_
          exact fun _ after => after
        next => exact inside.skip _

theorem meets_quotedEscape (inside : cursor.Within text) :
    Meets (fun fault => fault = .malformed ∨ NoCharacter cursor fault) (Ends text)
      (quotedEscape cursor) := by
  unfold quotedEscape
  split
  next => exact inside.next
  next count _ letter =>
    refine (meets_numericEscape letter inside.next).bind ?_
    exact fun _ after => after
  next =>
    split
    next =>
      refine Meets.imp ((reads_quotedBreaks _ inside.lineEnd).bind ?_) (fun _ => .inl) fun _ => id
      exact fun _ after => after
    next => exact .inl rfl

/-- The letters of numeric escapes are those of no short ones. -/
theorem escaped?_of_escapeLength {c : Char} {count : Nat} (letter : escapeLength? c = some count) :
    escaped? c = none := by
  obtain ⟨before, after, entries, _⟩ := List.lookup_eq_some_iff.1 letter
  have letters : ∀ entry ∈ [('x', 2), ('u', 4), ('U', 8)], escaped? entry.1 = none := by decide
  exact letters (c, count) (by simp [entries])

theorem quotedEscape_of_noCharacter {fault : Fault} (broken : NoCharacter cursor fault) :
    quotedEscape cursor = .error fault := by
  obtain ⟨letter, whole, number, large⟩ := broken
  have enough : ¬(cursor.next.rest.take _).length < _ :=
    Nat.not_lt.2 (Nat.le_of_eq (List.length_take_of_le whole).symm)
  unfold quotedEscape
  rw [escaped?_of_escapeLength letter, letter]
  dsimp only
  unfold numericEscape
  dsimp only
  rw [number]
  dsimp only
  rw [if_neg enough, if_pos large]
  rfl

/-- A character that is white space or a line end is taken, where the scalar goes on. -/
theorem reads_quotedSpaces {c : Char} {tail : List Char} (left : cursor.rest = c :: tail)
    (blank : isBlankOrEnd c = true) : Reads (Ends tail) (quotedSpaces cursor) := by
  have taken : (cursor.span fun c => c == ' ' || c == '\t').2.Within tail ∨
      (cursor.span fun c => c == ' ' || c == '\t').2 = cursor ∧ isBreakOrEnd c = true := by
    by_cases space : (c == ' ' || c == '\t') = true
    · rw [Cursor.span_of_pos left space]
      exact .inl ((Cursor.within_next left).skip fun c => c == ' ' || c == '\t')
    · rw [Bool.not_eq_true] at space
      rw [Cursor.span_of_neg left space]
      refine .inr ⟨rfl, ?_⟩
      rw [Bool.or_eq_false_iff] at space
      simpa [isBlankOrEnd, isSpaceOrEnd, space] using blank
  unfold quotedSpaces
  dsimp only
  split
  next => exact reads_malformed
  next goesOn =>
    have breaks (same : (cursor.span fun c => c == ' ' || c == '\t').2 = cursor)
        (breaksOrEnd : isBreakOrEnd c = true) : isBreak c = true := by
      rw [same, Cursor.here_of_rest left] at goesOn
      simpa [isBreakOrEnd, goesOn] using breaksOrEnd
    split
    next =>
      have after : (cursor.span fun c => c == ' ' || c == '\t').2.lineEnd.2.Within tail := by
        rcases taken with inside | ⟨same, breaksOrEnd⟩
        · exact inside.lineEnd
        · rw [same]
          exact Cursor.within_lineEnd left (breaks same breaksOrEnd)
      refine (reads_quotedBreaks _ after).bind ?_
      exact fun _ after => after
    next noBreak =>
      rcases taken with inside | ⟨same, breaksOrEnd⟩
      · exact inside
      · rw [same, Cursor.here_of_rest left] at noBreak
        exact absurd (breaks same breaksOrEnd) noBreak

/-- A part of a quoted scalar takes a character. -/
theorem meets_quotedPart (double : Bool) {c : Char} {tail : List Char}
    (left : cursor.rest = c :: tail) :
    Meets (fun fault => fault = .malformed ∨
        double = true ∧ cursor.here = '\\' ∧ NoCharacter cursor.next fault) (Ends tail)
      (quotedPart double cursor) := by
  have behind := Cursor.within_next left
  unfold quotedPart
  dsimp only
  split
  next => exact behind.advance 1
  next =>
    split
    next escape =>
      rw [Bool.and_eq_true] at escape
      refine (meets_quotedEscape behind).imp (fun fault => Or.imp_right fun broken => ?_)
        fun _ => id
      exact ⟨escape.1, eq_of_beq escape.2, broken⟩
    next =>
      split
      next blank =>
        rw [Cursor.here_of_rest left] at blank
        refine Meets.imp ((reads_quotedSpaces left blank).bind ?_) (fun _ => .inl) fun _ => id
        exact fun _ after => after
      next => exact behind

theorem quotedPart_nil (double : Bool) (ended : cursor.rest = []) :
    quotedPart double cursor = .error .malformed := by
  have here : cursor.here = '\x00' := by
    rw [Cursor.here, ended]
    rfl
  have spaces : quotedSpaces cursor = .error .malformed := by
    simp [quotedSpaces, Cursor.span, ended, Cursor.advance, here, isEnd]
    rfl
  have blank : isBlankOrEnd '\x00' = true := by decide
  cases double <;> simp [quotedPart, here, blank, spaces, bind, Except.bind]

/-- Behind its opening quote, a scalar with double quotes is read up to an escape that stands for no
character. -/
inductive BrokenQuoted : Cursor → Fault → Prop where
  | escape {cursor : Cursor} {fault : Fault} (mark : cursor.here = '\\')
      (broken : NoCharacter cursor.next fault) : BrokenQuoted cursor fault
  | part {cursor behind : Cursor} {points : List Point} {fault : Fault}
      (goesOn : cursor.here ≠ '"') (read : quotedPart true cursor = .ok (points, behind))
      (later : BrokenQuoted behind fault) : BrokenQuoted cursor fault

theorem meets_quotedParts (double : Bool) (fuel : Nat) (inside : cursor.Within text) :
    Meets (fun fault => fault = .malformed ∨ double = true ∧ BrokenQuoted cursor fault) (Ends text)
      (quotedParts double fuel cursor) := by
  induction fuel generalizing cursor with
  | zero => exact .inl rfl
  | succ fuel ih =>
      unfold quotedParts
      split
      next => exact inside.next
      next goesOn =>
        have part : Meets (fun fault => fault = .malformed ∨
            double = true ∧ BrokenQuoted cursor fault) (Ends text) (quotedPart double cursor) := by
          cases left : cursor.rest with
          | nil =>
              rw [quotedPart_nil double left]
              exact .inl rfl
          | cons c tail =>
              refine (meets_quotedPart double left).imp ?_ ?_
              · rintro fault (malformed | ⟨isDouble, mark, broken⟩)
                · exact .inl malformed
                · exact .inr ⟨isDouble, .escape mark broken⟩
              · rw [Cursor.Within, left] at inside
                exact fun read after => after.trans ((List.suffix_cons c tail).trans inside)
        refine part.given.bind ?_
        rintro ⟨points, behind⟩ ⟨read, after⟩
        refine Meets.bind ((ih after).imp ?_ fun _ => id) fun _ after => after
        rintro fault (malformed | ⟨rfl, later⟩)
        · exact .inl malformed
        · refine .inr ⟨rfl, .part (fun quote => goesOn ?_) read later⟩
          simp [closesQuoted, quote]

theorem quotedParts_of_broken {fault : Fault} {fuel : Nat} (broken : BrokenQuoted cursor fault)
    (enough : cursor.rest.length < fuel) : quotedParts true fuel cursor = .error fault := by
  induction broken generalizing fuel with
  | escape mark broken =>
      obtain ⟨fuel, rfl⟩ := Nat.exists_eq_add_one_of_ne_zero (Nat.ne_zero_of_lt enough)
      simp [quotedParts, closesQuoted, quotedPart, mark, quotedEscape_of_noCharacter broken, bind,
        Except.bind]
  | @part cursor behind points fault goesOn read later ih =>
      obtain ⟨fuel, rfl⟩ := Nat.exists_eq_add_one_of_ne_zero (Nat.ne_zero_of_lt enough)
      have shorter : behind.rest.length < fuel := by
        cases left : cursor.rest with
        | nil =>
            rw [quotedPart_nil true left] at read
            cases read
        | cons c tail =>
            have after : behind.rest <:+ tail := (meets_quotedPart true left).of_ok read
            rw [left, List.length_cons] at enough
            exact Nat.lt_of_le_of_lt after.length_le (Nat.lt_of_succ_lt_succ enough)
      simp [quotedParts, closesQuoted, goesOn, read, ih shorter, bind, Except.bind]

theorem meets_quoted (double : Bool) (inside : cursor.Within text) :
    Meets (fun fault => fault = .malformed ∨ double = true ∧ BrokenQuoted cursor fault) (Ends text)
      (quoted double cursor) :=
  meets_quotedParts double _ inside

theorem quoted_of_broken {fault : Fault} (broken : BrokenQuoted cursor fault) :
    quoted true cursor = .error fault :=
  quotedParts_of_broken broken (Nat.lt_succ_self _)

/-! ## Plain scalars -/

theorem within_plainBreaks (fuel : Nat) (inside : cursor.Within text) :
    (plainBreaks fuel cursor).2.Within text := by
  induction fuel generalizing cursor with
  | zero => exact inside
  | succ fuel ih =>
      unfold plainBreaks
      split
      next => exact ih inside.next
      next =>
        split
        next =>
          dsimp only
          split
          next => exact inside.lineEnd
          next => exact ih inside.lineEnd
        next => exact inside

theorem within_plainGap (inside : cursor.Within text) : (plainGap cursor).cursor.Within text := by
  have after : (cursor.span (· == ' ')).2.Within text := inside.skip _
  unfold plainGap
  dsimp only
  split
  next =>
    split
    next => exact after.lineEnd
    next =>
      have behind := within_plainBreaks
        ((cursor.span (· == ' ')).2.lineEnd.2.rest.length + 1) after.lineEnd
      split
      next found =>
        rw [found] at behind
        exact behind
      next found =>
        rw [found] at behind
        exact behind
  next => exact after

theorem within_plainWords (inFlow : Bool) (indent : Int) (fuel : Nat) {gap : PlainGap}
    (inside : gap.cursor.Within text) : (plainWords inFlow indent fuel gap).cursor.Within text := by
  induction fuel generalizing gap with
  | zero => exact inside
  | succ fuel ih =>
      unfold plainWords
      dsimp only
      split
      next => exact inside
      next =>
        split
        next => exact inside
        next =>
          split
          next => exact within_plainGap (inside.advance _)
          next => exact ih (within_plainGap (inside.advance _))

/-- A plain scalar takes the character that it starts with. -/
theorem within_plain {inFlow : Bool} (outer : Int) {c : Char} {tail : List Char}
    (left : cursor.rest = c :: tail) (noComment : c ≠ '#')
    (starts : endsPlain inFlow c (tail.headD '\x00') = false) :
    (plain inFlow outer cursor).cursor.Within tail := by
  have word : plainWord inFlow cursor.rest = c :: plainWord inFlow tail := by
    rw [left, plainWord, starts]
    rfl
  have here : (cursor.here == '#') = false := by
    rw [Cursor.here_of_rest left]
    exact beq_false_of_ne noComment
  have behind : (cursor.advance (c :: plainWord inFlow tail).length).Within tail :=
    (Cursor.within_next left).advance _
  unfold plain plainWords
  simp only [here, Bool.false_eq_true, if_false, word, List.isEmpty_cons]
  split
  next => exact within_plainGap behind
  next => exact within_plainWords inFlow _ _ (within_plainGap behind)

end RouteTypes.Yaml.Lexeme
