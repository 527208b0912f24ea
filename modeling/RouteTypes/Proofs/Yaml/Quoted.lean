import RouteTypes.Proofs.Json.Portable
import RouteTypes.Proofs.Yaml.Cursor

/-!
# Strings in both formats

A string of JSON is a scalar of YAML with double quotes. Both readers are followed character by
character: an escape gives the same character in both, and where YAML folds white space, a portable
string has none that changes (`isQuoted_of_readString`).
-/

namespace RouteTypes.Yaml.Lexeme

open Json (isPortableString splitString)

variable {cursor after : Cursor} {points : List Point} {more : List Char} {c : Char}

/-- White space inside of a line. -/
def isBlank (c : Char) : Bool :=
  c == ' ' || c == '\t'

/-- A scalar with double quotes goes on at a place with some points and ends in front of another
place. Blanks there are followed by a character, not by the end of a line or of the text. -/
structure Quotes (cursor : Cursor) (points : List Point) (after : Cursor) : Prop where
  reads : ∀ fuel, cursor.rest.length < fuel → quotedParts true fuel cursor = .ok (points, after)
  calm : isBreak cursor.here = false → isBreakOrEnd (cursor.skip isBlank).here = false

/-! ## White space -/

theorem quotedSpaces_calm (calm : isBreakOrEnd (cursor.span isBlank).2.here = false) :
    quotedSpaces cursor = .ok (cursor.span isBlank) := by
  rw [isBreakOrEnd, Bool.or_eq_false_iff] at calm
  have isSpan : (cursor.span fun c => c == ' ' || c == '\t') = cursor.span isBlank := rfl
  simp [quotedSpaces, isSpan, calm]
  rfl

/-- The line ends of Unicode. -/
def isKept (c : Char) : Bool :=
  c == '\u2028' || c == '\u2029'

theorem lineEnd_kept (left : cursor.rest = c :: more) (kept : isKept c) :
    cursor.lineEnd = ([c], cursor.next) := by
  have known : c = '\u2028' ∨ c = '\u2029' := by simpa [isKept] using kept
  rcases known with rfl | rfl <;> simp [Cursor.lineEnd, left]

theorem visible_kept (kept : isKept c) :
    isBlank c = false ∧ isBreak c = true ∧ isEnd c = false ∧ c ≠ '\n' := by
  have known : c = '\u2028' ∨ c = '\u2029' := by simpa [isKept] using kept
  rcases known with rfl | rfl <;> decide

theorem quotedSpaces_kept (left : cursor.rest = c :: more) (kept : isKept c) :
    quotedSpaces cursor =
      (quotedBreaks (more.length + 1) cursor.next).map fun read => (c :: read.1, read.2) := by
  obtain ⟨visible, breaks, notEnd, notLine⟩ := visible_kept kept
  have isSpan : (cursor.span fun c => c == ' ' || c == '\t') = ([], cursor) :=
    Cursor.span_of_neg left visible
  simp only [quotedSpaces, isSpan, Cursor.here_of_rest left, notEnd, breaks, lineEnd_kept left kept,
    Cursor.next_of_rest left, if_true, Bool.false_eq_true, if_false]
  cases quotedBreaks (more.length + 1) cursor.next with
  | error => rfl
  | ok read => simp [notLine, pure, Except.pure, bind, Except.bind, Except.map]

theorem quotedBreaks_kept (left : cursor.rest = c :: more) (kept : isKept c)
    (notSeparator : cursor.isSeparator = false) (fuel : Nat) :
    quotedBreaks (fuel + 1) cursor =
      (quotedBreaks fuel cursor.next).map fun read => (c :: read.1, read.2) := by
  obtain ⟨visible, breaks, _⟩ := visible_kept kept
  have isSkip : (cursor.skip fun c => c == ' ' || c == '\t') = cursor :=
    congrArg Prod.snd (Cursor.span_of_neg left visible)
  simp only [quotedBreaks, notSeparator, isSkip, Cursor.here_of_rest left, breaks,
    lineEnd_kept left kept, if_true, Bool.false_eq_true, if_false]
  cases quotedBreaks fuel cursor.next <;> rfl

theorem quotedBreaks_calm (left : cursor.rest = c :: more) (visible : isBlank c = false)
    (noBreak : isBreak c = false) (notSeparator : cursor.isSeparator = false) (fuel : Nat) :
    quotedBreaks (fuel + 1) cursor = .ok ([], cursor) := by
  have isSkip : (cursor.skip fun c => c == ' ' || c == '\t') = cursor :=
    congrArg Prod.snd (Cursor.span_of_neg left visible)
  simp only [quotedBreaks, notSeparator, isSkip, Cursor.here_of_rest left, noBreak,
    Bool.false_eq_true, if_false]

/-- A line end of Unicode is kept in front of another one. -/
theorem quotedSpaces_next (left : cursor.rest = c :: more) (kept : isKept c)
    (notSeparator : cursor.next.isSeparator = false) {next : Char} {later : List Char}
    (isMore : more = next :: later) (alsoKept : isKept next) :
    quotedSpaces cursor = (quotedSpaces cursor.next).map fun read => (c :: read.1, read.2) := by
  have behind : cursor.next.rest = next :: later := (Cursor.next_of_rest left).trans isMore
  rw [quotedSpaces_kept left kept, quotedSpaces_kept behind alsoKept, isMore, List.length_cons,
    quotedBreaks_kept behind alsoKept notSeparator]

/-! ## Characters -/

theorem quotedParts_open (left : cursor.rest = c :: more) (notQuote : c ≠ '"') (fuel : Nat) :
    quotedParts true (fuel + 1) cursor = (quotedPart true cursor).bind fun read =>
      (quotedParts true fuel read.2).map fun others => (read.1 ++ others.1, others.2) := by
  have isOpen : closesQuoted true cursor = false := by
    simp [closesQuoted, Cursor.here_of_rest left, notQuote]
  rw [quotedParts, isOpen, if_neg Bool.false_ne_true]
  rfl

theorem quotedParts_blank (left : cursor.rest = c :: more) (blank : isBlankOrEnd c) (fuel : Nat) :
    quotedParts true (fuel + 1) cursor = (quotedSpaces cursor).bind fun read =>
      (quotedParts true fuel read.2).map fun others =>
        (read.1.map .char ++ others.1, others.2) := by
  have notQuote : c ≠ '"' := by rintro rfl; exact absurd blank (by decide)
  have notEscape : c ≠ '\\' := by rintro rfl; exact absurd blank (by decide)
  rw [quotedParts_open left notQuote]
  simp only [quotedPart, Cursor.here_of_rest left, blank]
  cases quotedSpaces cursor <;> simp [notEscape, bind, Except.bind, pure, Except.pure]

namespace Quotes

theorem ending (left : cursor.rest = '"' :: more) : Quotes cursor [] cursor.next where
  reads fuel enough := by
    obtain ⟨fuel, rfl⟩ := Nat.exists_eq_add_one_of_ne_zero (Nat.ne_zero_of_lt enough)
    rw [quotedParts]
    simp [closesQuoted, Cursor.here_of_rest left]
  calm _ := by
    rw [Cursor.skip, Cursor.span_of_neg left (by decide), Cursor.here_of_rest left]
    decide

theorem plain (others : Quotes cursor.next points after) (left : cursor.rest = c :: more)
    (notQuote : c ≠ '"') (notEscape : c ≠ '\\') (visible : isBlankOrEnd c = false) :
    Quotes cursor (.char c :: points) after where
  reads fuel enough := by
    rw [left, List.length_cons] at enough
    obtain ⟨fuel, rfl⟩ := Nat.exists_eq_add_one_of_ne_zero (Nat.ne_zero_of_lt enough)
    have read := others.reads fuel (by rw [Cursor.next_of_rest left]; omega)
    rw [quotedParts_open left notQuote]
    simp [quotedPart, Cursor.here_of_rest left, notEscape, visible, read, Except.bind, Except.map]
  calm _ := by
    have visible : isBlank c = false ∧ isBreakOrEnd c = false := by
      simpa [isBlankOrEnd, isSpaceOrEnd, isBlank, and_assoc, and_left_comm] using visible
    rw [Cursor.skip, Cursor.span_of_neg left visible.1, Cursor.here_of_rest left]
    exact visible.2

/-- Blanks are kept, because no line ends behind them. -/
theorem space (others : Quotes cursor.next points after) (left : cursor.rest = ' ' :: more)
    (noBreak : isBreak cursor.next.here = false) : Quotes cursor (.char ' ' :: points) after where
  reads fuel enough := by
    rw [left, List.length_cons] at enough
    obtain ⟨fuel, rfl⟩ := Nat.exists_eq_add_one_of_ne_zero (Nat.ne_zero_of_lt enough)
    have shorter : cursor.next.rest.length < fuel := by
      rw [Cursor.next_of_rest left]
      omega
    have calm := others.calm noBreak
    have isSpan := Cursor.span_of_pos left (show isBlank ' ' = true by decide)
    have spaces : quotedSpaces cursor =
        .ok (' ' :: (cursor.next.span isBlank).1, (cursor.next.span isBlank).2) := by
      rw [quotedSpaces_calm, isSpan]
      rw [isSpan]
      exact calm
    rw [quotedParts_blank left (by decide), spaces, Except.bind]
    dsimp only
    -- Either the blanks end here, or the next place starts with the others of them.
    cases behind : cursor.next.rest with
    | nil =>
        have ended : cursor.next.span isBlank = ([], cursor.next) := by
          simp [Cursor.span, behind, Cursor.advance]
        rw [ended, others.reads fuel shorter]
        rfl
    | cons next later =>
        by_cases blank : isBlank next = true
        · have read := others.reads (fuel + 1) (by omega)
          have known : next = ' ' ∨ next = '\t' := by simpa [isBlank] using blank
          have isBlankOrEnd : isBlankOrEnd next := by rcases known with rfl | rfl <;> decide
          rw [quotedParts_blank behind isBlankOrEnd, quotedSpaces_calm calm, Except.bind] at read
          cases found : quotedParts true fuel (cursor.next.span isBlank).2 with
          | error =>
              rw [found] at read
              cases read
          | ok =>
              rw [found] at read
              cases read
              rfl
        · rw [Cursor.span_of_neg behind (by simpa using blank), others.reads fuel shorter]
          rfl
  calm _ := by
    have behind := others.calm noBreak
    rwa [Cursor.skip, Cursor.span_of_pos left (by decide)]

/-- A line end of Unicode is kept. -/
theorem kept (others : Quotes cursor.next points after) (left : cursor.rest = c :: more)
    (isKept : isKept c) (notSeparator : cursor.next.isSeparator = false) {next : Char}
    {later : List Char} (behind : cursor.next.rest = next :: later) (visible : isBlank next = false)
    (breaks : isBreak next = true → Lexeme.isKept next = true) :
    Quotes cursor (.char c :: points) after where
  reads fuel enough := by
    have same : more = next :: later := (Cursor.next_of_rest left).symm.trans behind
    have isBlankOrEnd : isBlankOrEnd c := by
      have breaks := (visible_kept isKept).2.1
      simp [isBlankOrEnd, isSpaceOrEnd, isBreakOrEnd, breaks]
    rw [left, List.length_cons] at enough
    obtain ⟨fuel, rfl⟩ := Nat.exists_eq_add_one_of_ne_zero (Nat.ne_zero_of_lt enough)
    have shorter : cursor.next.rest.length < fuel := by
      rw [Cursor.next_of_rest left]
      omega
    rw [quotedParts_blank left isBlankOrEnd]
    by_cases alsoKept : Lexeme.isKept next = true
    · have read := others.reads (fuel + 1) (by omega)
      have nextIsBlank : Yaml.isBlankOrEnd next := by
        have breaks := (visible_kept alsoKept).2.1
        simp [Yaml.isBlankOrEnd, isSpaceOrEnd, isBreakOrEnd, breaks]
      rw [quotedParts_blank behind nextIsBlank] at read
      rw [quotedSpaces_next left isKept notSeparator same alsoKept]
      cases spaces : quotedSpaces cursor.next with
      | error =>
          rw [spaces] at read
          cases read
      | ok found =>
          rw [spaces, Except.bind] at read
          rw [Except.map, Except.bind]
          dsimp only
          cases rest : quotedParts true fuel found.2 with
          | error =>
              rw [rest] at read
              cases read
          | ok =>
              rw [rest] at read
              cases read
              rfl
    · have noBreak : isBreak next = false := by
        by_contra isBreak
        exact alsoKept (breaks (by simpa using isBreak))
      rw [quotedSpaces_kept left isKept, quotedBreaks_calm behind visible noBreak notSeparator,
        Except.map, Except.bind]
      dsimp only
      rw [others.reads fuel shorter]
      rfl
  calm noBreak := by
    rw [Cursor.here_of_rest left, (visible_kept isKept).2.1] at noBreak
    cases noBreak

/-- An escape stands for a point. -/
theorem escape {place : Cursor} {point : Point} (others : Quotes place points after)
    (left : cursor.rest = '\\' :: more)
    (escaped : quotedEscape cursor.next = .ok ([point], place))
    (shorter : place.rest.length ≤ more.length) : Quotes cursor (point :: points) after where
  reads fuel enough := by
    rw [left, List.length_cons] at enough
    obtain ⟨fuel, rfl⟩ := Nat.exists_eq_add_one_of_ne_zero (Nat.ne_zero_of_lt enough)
    have read := others.reads fuel (by omega)
    rw [quotedParts_open left (by decide)]
    simp [quotedPart, Cursor.here_of_rest left, escaped, read, Except.bind, Except.map]
  calm _ := by
    rw [Cursor.skip, Cursor.span_of_neg left (by decide), Cursor.here_of_rest left]
    decide

end Quotes

/-! ## Escapes -/

theorem quotedEscape_short {letter : Char} (left : cursor.rest = letter :: more)
    (known : Json.escaped? letter = some c) :
    quotedEscape cursor = .ok ([.char c], cursor.next) := by
  have same : escaped? letter = some c := by
    unfold Json.escaped? at known
    split at known <;> cases known <;> rfl
  rw [quotedEscape, Cursor.here_of_rest left, same]

theorem digitValue?_lt {base value : Nat} (digit : Number.digitValue? base c = some value) :
    value < base := by
  rw [Number.digitValue?, Option.ite_none_right_eq_some, Option.some.injEq] at digit
  rw [← digit.2]
  exact digit.1

/-- The four digits of an escape and the number that they stand for. -/
structure FourDigits (digits : List Char) (code : Nat) : Prop where
  length : digits.length = 4
  number : hexNumber? digits = some code
  small : code < 0x10000
  hexadecimal : ∀ c ∈ digits, (Number.digitValue? 16 c).isSome
  reads : ∀ rest, Json.hexFour? (digits ++ rest) = some (code, rest)

theorem fourDigits_of_hexFour {text rest : List Char} {code : Nat}
    (found : Json.hexFour? text = some (code, rest)) :
    ∃ digits, text = digits ++ rest ∧ FourDigits digits code := by
  unfold Json.hexFour? at found
  split at found
  next a b c d rest =>
    simp only [Option.bind_eq_bind, Option.bind_eq_some_iff] at found
    obtain ⟨first, isFirst, second, isSecond, third, isThird, fourth, isFourth, same⟩ := found
    cases same
    have bounds := And.intro (digitValue?_lt isFirst) (And.intro (digitValue?_lt isSecond)
      (And.intro (digitValue?_lt isThird) (digitValue?_lt isFourth)))
    refine ⟨[a, b, c, d], rfl, rfl, ?_, by omega, ?_, ?_⟩
    · simp [hexNumber?, isFirst, isSecond, isThird, isFourth]
    · simp [isFirst, isSecond, isThird, isFourth]
    · simp [Json.hexFour?, isFirst, isSecond, isThird, isFourth]
  next => cases found

/-- The escape of a character that is no half of one, or of a half that stands alone. -/
theorem quotedEscape_numeric {digits : List Char} {code : Nat} (four : FourDigits digits code)
    (left : cursor.rest = 'u' :: (digits ++ more)) :
    quotedEscape cursor = .ok ([.ofCode code], cursor.advance 5) := by
  have small := four.small
  have taken : cursor.next.rest.take 4 = digits := by
    rw [Cursor.next_of_rest left, ← four.length, List.take_left]
  have read : numericEscape 4 cursor.next = .ok (.ofCode code, cursor.advance 5) := by
    simp only [numericEscape, taken, four.number, four.length, Nat.lt_irrefl, if_false]
    rw [if_neg (by omega)]
    rfl
  have noName : escaped? 'u' = none := by decide
  have isLong : escapeLength? 'u' = some 4 := by decide
  rw [quotedEscape, Cursor.here_of_rest left, noName, isLong]
  simp only [bind, Except.bind, pure, Except.pure, read]

/-- An escape gives its point, unless it is joined with the one behind it. -/
theorem readUnicode_eq_ok {text rest : List Char} {point : Point}
    (success : Json.readUnicode text = .ok (point, rest)) :
    ∃ code behind, Json.hexFour? text = some (code, behind) ∧
      (point = .ofCode code ∧ rest = behind ∨ Json.isHighHalf code ∧ ∃ low later,
        behind = '\\' :: 'u' :: later ∧ Json.hexFour? later = some (low, rest) ∧
          Json.isLowHalf low) := by
  unfold Json.readUnicode at success
  split at success
  next => cases success
  next => cases success
  next code behind _ found =>
    refine ⟨code, behind, found, ?_⟩
    split at success
    next high =>
      split at success
      next more _ =>
        split at success
        next =>
          cases success
          exact .inl ⟨rfl, rfl⟩
        next =>
          split at success
          next => cases success
          next low after isLow =>
            split at success
            next paired =>
              obtain ⟨-, rfl⟩ := Prod.mk.inj (Except.ok.inj success)
              exact .inr ⟨high, low, more, rfl, isLow, paired⟩
            next =>
              cases success
              exact .inl ⟨rfl, rfl⟩
      next =>
        cases success
        exact .inl ⟨rfl, rfl⟩
    next =>
      cases success
      exact .inl ⟨rfl, rfl⟩

/-! ## Strings -/

/-- A text begins with the characters of a string, its closing quote follows, and where these
characters are portable, they are read as the same in YAML. -/
structure Strings (text : List Char) (points : List Point) (rest : List Char) : Prop where
  split : (splitString text).2 = rest
  whole : text = (splitString text).1 ++ '"' :: rest
  visible : ∀ c ∈ (splitString text).1, 32 ≤ c.toNat
  quotes : isPortableString (splitString text).1 → ∀ cursor : Cursor, cursor.rest = text →
    Quotes cursor points (cursor.advance ((splitString text).1.length + 1))

theorem ne_of_hexadecimal {c other : Char} (digit : (Number.digitValue? 16 c).isSome)
    (notDigit : Number.digitValue? 16 other = none) : c ≠ other := by
  rintro rfl
  rw [notDigit] at digit
  cases digit

theorem visible_of_hexadecimal {c : Char} (digit : (Number.digitValue? 16 c).isSome) :
    32 ≤ c.toNat := by
  by_contra control
  have below (first last : Char) (late : 32 ≤ first.toNat) : ¬(first ≤ c ∧ c ≤ last) := by
    intro between
    have order : first.toNat ≤ c.toNat := between.1
    omega
  rw [Number.digitValue?, if_neg (below '0' '9' (by decide)), if_neg (below 'a' 'z' (by decide)),
    if_neg (below 'A' 'Z' (by decide))] at digit
  cases digit

theorem splitString_cons (notQuote : c ≠ '"') (notEscape : c ≠ '\\') (rest : List Char) :
    splitString (c :: rest) = (c :: (splitString rest).1, (splitString rest).2) := by
  rw [splitString]
  · exact fun same => absurd same notQuote
  · exact fun _ _ same => absurd same notEscape

theorem splitString_digits {digits : List Char}
    (hexadecimal : ∀ c ∈ digits, (Number.digitValue? 16 c).isSome) (rest : List Char) :
    splitString (digits ++ rest) = (digits ++ (splitString rest).1, (splitString rest).2) := by
  induction digits with
  | nil => rfl
  | cons c digits ih =>
      rw [List.forall_mem_cons] at hexadecimal
      have notQuote : c ≠ '"' := ne_of_hexadecimal hexadecimal.1 (by decide)
      have notEscape : c ≠ '\\' := ne_of_hexadecimal hexadecimal.1 (by decide)
      rw [List.cons_append, splitString_cons notQuote notEscape, ih hexadecimal.2]
      rfl

theorem isPortableString_cons (notEscape : c ≠ '\\') (rest : List Char) :
    isPortableString (c :: rest) =
      ((if c == ' ' then !rest.head?.any isBreak
        else if isBreak c then
          c != '\u0085' && rest.head? != some ' ' && !Json.startsSeparator rest
        else true) &&
      isPortableString rest) := by
  rw [isPortableString]
  exact fun _ _ same => absurd same notEscape

theorem isPortableString_digits {digits : List Char}
    (hexadecimal : ∀ c ∈ digits, (Number.digitValue? 16 c).isSome) (rest : List Char) :
    isPortableString (digits ++ rest) = isPortableString rest := by
  induction digits with
  | nil => rfl
  | cons c digits ih =>
      rw [List.forall_mem_cons] at hexadecimal
      have notEscape : c ≠ '\\' := ne_of_hexadecimal hexadecimal.1 (by decide)
      have notSpace : c ≠ ' ' := ne_of_hexadecimal hexadecimal.1 (by decide)
      have noBreak : isBreak c = false := by
        have other (mark : Char) (notDigit : Number.digitValue? 16 mark = none) : c ≠ mark :=
          ne_of_hexadecimal hexadecimal.1 notDigit
        simp [isBreak, other '\n' (by decide), other '\r' (by decide), other '\u0085' (by decide),
          other '\u2028' (by decide), other '\u2029' (by decide)]
      rw [List.cons_append, isPortableString_cons notEscape, ih hexadecimal.2]
      simp [notSpace, noBreak]

theorem isSeparator_eq_false {raw rest : List Char} (left : cursor.rest = raw ++ '"' :: rest)
    (none : Json.startsSeparator raw = false) : cursor.isSeparator = false := by
  match raw with
  | [] => simp [Cursor.isSeparator, Cursor.isMarker, Cursor.here, left]
  | [_] => simp [Cursor.isSeparator, Cursor.isMarker, Cursor.ahead, left]
  | [_, _] => simp [Cursor.isSeparator, Cursor.isMarker, Cursor.ahead, left]
  | [_, _, _] =>
      simp [Cursor.isSeparator, Cursor.isMarker, Cursor.ahead, left, isBlankOrEnd, isSpaceOrEnd,
        isBreakOrEnd, isBreak, isEnd]
  | a :: b :: c :: d :: raw =>
      simp only [Json.startsSeparator] at none
      simp only [Cursor.isSeparator, Cursor.isMarker, Cursor.here, Cursor.ahead, left]
      simp
      constructor
      all_goals
        rintro rfl rfl rfl
        exact none

theorem isKept_of_isBreak (breaks : isBreak c) (notControl : 32 ≤ c.toNat) (other : c ≠ '\u0085') :
    isKept c = true := by
  simp only [isBreak, Bool.or_eq_true, beq_iff_eq] at breaks
  rcases breaks with (((rfl | rfl) | same) | rfl) | rfl
  · exact absurd notControl (by decide)
  · exact absurd notControl (by decide)
  · exact absurd same other
  · rfl
  · rfl

/-- A line end of a portable string is one that is kept. -/
theorem isKept_of_portable {raw : List Char} (portable : isPortableString raw)
    (first : raw.head? = some c) (notControl : 32 ≤ c.toNat) (breaks : isBreak c) :
    isKept c = true := by
  obtain ⟨raw, rfl⟩ := List.head?_eq_some_iff.1 first
  have notEscape : c ≠ '\\' := by rintro rfl; exact absurd breaks (by decide)
  have notSpace : (c == ' ') = false := by
    rw [beq_eq_false_iff_ne]
    rintro rfl
    exact absurd breaks (by decide)
  rw [isPortableString_cons notEscape, notSpace, breaks] at portable
  simp only [Bool.false_eq_true, if_false, if_true, Bool.and_eq_true, bne_iff_ne] at portable
  exact isKept_of_isBreak breaks notControl portable.1.1.1

namespace Strings

variable {text rest : List Char}

theorem ending (rest : List Char) : Strings ('"' :: rest) [] rest where
  split := rfl
  whole := rfl
  visible := nofun
  quotes _ _ left := .ending left

/-- What stands at a place of a string: one of its characters, or its closing quote. -/
theorem here (strings : Strings text points rest) (left : cursor.rest = text) :
    ∃ c later, cursor.rest = c :: later ∧ 32 ≤ c.toNat ∧
      ((splitString text).1.head? = some c ∨ (splitString text).1 = [] ∧ c = '"') := by
  have whole := strings.whole
  have visible := strings.visible
  cases raw : (splitString text).1 with
  | nil =>
      rw [raw] at whole
      exact ⟨'"', rest, left.trans whole, by decide, .inr ⟨rfl, rfl⟩⟩
  | cons c others =>
      rw [raw] at whole visible
      exact ⟨c, others ++ '"' :: rest, left.trans whole, visible c List.mem_cons_self, .inl rfl⟩

/-- A character that is no escape. -/
theorem plain (strings : Strings text points rest) (notQuote : c ≠ '"') (notEscape : c ≠ '\\')
    (notControl : 32 ≤ c.toNat) : Strings (c :: text) (.char c :: points) rest where
  split := by rw [splitString_cons notQuote notEscape, strings.split]
  whole := by
    rw [splitString_cons notQuote notEscape, List.cons_append, ← strings.whole]
  visible := by
    rw [splitString_cons notQuote notEscape]
    exact List.forall_mem_cons.2 ⟨notControl, strings.visible⟩
  quotes := by
    rw [splitString_cons notQuote notEscape]
    dsimp only
    intro portable cursor left
    rw [isPortableString_cons notEscape, Bool.and_eq_true] at portable
    obtain ⟨first, portable⟩ := portable
    have behind := Cursor.next_of_rest left
    have others := strings.quotes portable cursor.next behind
    obtain ⟨next, later, isNext, nextVisible, isHead⟩ := strings.here behind
    by_cases space : c = ' '
    · subst space
      rw [if_pos (by decide)] at first
      refine others.space left ?_
      rw [Cursor.here_of_rest isNext]
      rcases isHead with isHead | ⟨_, rfl⟩
      · simpa [isHead] using first
      · decide
    · rw [if_neg (by simpa using space)] at first
      by_cases breaks : isBreak c = true
      · rw [if_pos breaks] at first
        simp only [Bool.and_eq_true, bne_iff_ne, Bool.not_eq_true'] at first
        obtain ⟨⟨other, noBlank⟩, noSeparator⟩ := first
        refine others.kept left (isKept_of_isBreak breaks notControl other)
          (isSeparator_eq_false (behind.trans strings.whole) noSeparator) isNext ?_ ?_
        · have notTab : next ≠ '\t' := by rintro rfl; exact absurd nextVisible (by decide)
          have notSpace : next ≠ ' ' := by
            rcases isHead with isHead | ⟨_, rfl⟩
            · rintro rfl
              exact noBlank isHead
            · decide
          simp [isBlank, notTab, notSpace]
        · intro nextBreaks
          rcases isHead with isHead | ⟨_, rfl⟩
          · exact isKept_of_portable portable isHead nextVisible nextBreaks
          · exact absurd nextBreaks (by decide)
      · refine others.plain left notQuote notEscape ?_
        have notTab : c ≠ '\t' := by rintro rfl; exact absurd notControl (by decide)
        have notEnd : c ≠ '\x00' := by rintro rfl; exact absurd notControl (by decide)
        simp [isBlankOrEnd, isSpaceOrEnd, isBreakOrEnd, isEnd, breaks, space, notTab, notEnd]

@[simp] theorem splitString_escape (letter : Char) (rest : List Char) :
    splitString ('\\' :: letter :: rest) =
      ('\\' :: letter :: (splitString rest).1, (splitString rest).2) := by
  rw [splitString]

@[simp] theorem isPortableString_escape (letter : Char) (rest : List Char) :
    isPortableString ('\\' :: letter :: rest) =
      (!(letter == 'u' && Json.joins rest) && isPortableString rest) := by
  rw [isPortableString]

/-- A short escape. -/
theorem short (strings : Strings text points rest) {letter : Char}
    (known : Json.escaped? letter = some c) :
    Strings ('\\' :: letter :: text) (.char c :: points) rest where
  split := by rw [splitString_escape, strings.split]
  whole := by
    rw [splitString_escape, List.cons_append, List.cons_append, ← strings.whole]
  visible := by
    rw [splitString_escape]
    have visible : 32 ≤ letter.toNat := by
      unfold Json.escaped? at known
      split at known <;> first | decide | cases known
    exact List.forall_mem_cons.2 ⟨by decide, List.forall_mem_cons.2 ⟨visible, strings.visible⟩⟩
  quotes := by
    rw [splitString_escape]
    dsimp only
    intro portable cursor left
    rw [isPortableString_escape, Bool.and_eq_true] at portable
    have behind := Cursor.next_of_rest left
    have others := strings.quotes portable.2 cursor.next.next (Cursor.next_of_rest behind)
    refine others.escape left (quotedEscape_short behind known) ?_
    rw [Cursor.next_of_rest behind]
    exact Nat.le_succ _

/-- An escape with four digits that is not joined with one behind it. -/
theorem numeric (strings : Strings text points rest) {digits : List Char} {code : Nat}
    (four : FourDigits digits code) :
    Strings ('\\' :: 'u' :: (digits ++ text)) (.ofCode code :: points) rest where
  split := by rw [splitString_escape, splitString_digits four.hexadecimal, strings.split]
  whole := by
    rw [splitString_escape, splitString_digits four.hexadecimal]
    simp [← strings.whole]
  visible := by
    rw [splitString_escape, splitString_digits four.hexadecimal]
    refine List.forall_mem_cons.2 ⟨by decide, List.forall_mem_cons.2 ⟨by decide, ?_⟩⟩
    rw [List.forall_mem_append]
    exact ⟨fun c member => visible_of_hexadecimal (four.hexadecimal c member), strings.visible⟩
  quotes := by
    rw [splitString_escape, splitString_digits four.hexadecimal]
    dsimp only
    intro portable cursor left
    rw [isPortableString_escape, Bool.and_eq_true, isPortableString_digits four.hexadecimal]
      at portable
    have behind := Cursor.next_of_rest left
    have place : (cursor.next.advance 5).rest = text := by
      rw [Cursor.rest_advance, behind, List.drop_succ_cons, ← four.length, List.drop_left]
    have others := strings.quotes portable.2 (cursor.next.advance 5) place
    have shorter : (cursor.next.advance 5).rest.length ≤ ('u' :: (digits ++ text)).length := by
      rw [place, List.length_cons, List.length_append]
      omega
    have length : ('\\' :: 'u' :: (digits ++ (splitString text).1)).length + 1 =
        5 + ((splitString text).1.length + 1) + 1 := by
      rw [List.length_cons, List.length_cons, List.length_append, four.length]
      omega
    rw [length, Cursor.advance, ← Cursor.advance_advance]
    exact others.escape left (quotedEscape_numeric four behind) shorter

/-- Escapes that are joined do not stand in a portable string. -/
theorem joined (strings : Strings text points rest) {first second : List Char} {high low : Nat}
    (isFirst : FourDigits first high) (isHigh : Json.isHighHalf high)
    (isSecond : FourDigits second low) (isLow : Json.isLowHalf low) (point : Point) :
    Strings ('\\' :: 'u' :: (first ++ '\\' :: 'u' :: (second ++ text))) (point :: points) rest := by
  have apart := (strings.numeric isSecond).numeric isFirst
  refine ⟨apart.split, apart.whole, apart.visible, fun portable => ?_⟩
  rw [splitString_escape, splitString_digits isFirst.hexadecimal, splitString_escape,
    splitString_digits isSecond.hexadecimal] at portable
  have joins : Json.joins (first ++ '\\' :: 'u' :: (second ++ (splitString text).1)) = true := by
    simp [Json.joins, isFirst.reads, isSecond.reads, isHigh, isLow]
  simp [isPortableString_escape, joins] at portable

end Strings

/-- What is read as the points of a string in JSON. -/
theorem strings_of_readPoints {opening fuel : Nat} {text rest : List Char}
    (success : Json.readPoints opening fuel text = .ok (points, rest)) :
    Strings text points rest := by
  induction fuel generalizing text points with
  | zero => cases success
  | succ fuel ih =>
      rw [Json.readPoints.eq_def] at success
      dsimp only at success
      split at success
      next => cases success
      next => cases success
      next =>
        cases success
        exact .ending rest
      next same =>
        cases same
        split at success
        next => cases success
        next digits =>
          obtain ⟨⟨point, left⟩, escaped, success⟩ := except_bind_eq_ok.1 success
          obtain ⟨⟨others, behind⟩, read, ended⟩ := except_bind_eq_ok.1 success
          cases ended
          obtain ⟨code, text, found, ⟨rfl, rfl⟩ | ⟨isHigh, low, later, rfl, foundLow, isLow⟩⟩ :=
            readUnicode_eq_ok escaped
          · obtain ⟨four, rfl, isFour⟩ := fourDigits_of_hexFour found
            exact (ih read).numeric isFour
          · obtain ⟨first, rfl, isFirst⟩ := fourDigits_of_hexFour found
            obtain ⟨second, rfl, isSecond⟩ := fourDigits_of_hexFour foundLow
            exact (ih read).joined isFirst isHigh isSecond isLow point
        next =>
          split at success
          next => cases success
          next known =>
            obtain ⟨⟨others, behind⟩, read, ended⟩ := except_bind_eq_ok.1 success
            cases ended
            exact (ih read).short known
      next notQuote notEscape same =>
        cases same
        split at success
        next => cases success
        next visible =>
          obtain ⟨⟨others, behind⟩, read, ended⟩ := except_bind_eq_ok.1 success
          cases ended
          exact (ih read).plain notQuote notEscape (Nat.not_lt.1 visible)

/-- A text begins with a scalar with double quotes, behind its opening quote. -/
structure IsQuoted (text : List Char) (points : List Point) (rest : List Char) : Prop where
  whole : text = (splitString text).1 ++ '"' :: rest
  split : (splitString text).2 = rest
  reads : ∀ cursor : Cursor, cursor.rest = text →
    quoted true cursor = .ok (points, cursor.advance ((splitString text).1.length + 1))

/-- A portable string of JSON is the same scalar in YAML. -/
theorem isQuoted_of_readString {text rest : List Char} {name : Scalar}
    (success : Json.readString text = .ok (name, rest))
    (portable : isPortableString (splitString text).1) :
    ∃ points, name = .ofPoints points ∧ IsQuoted text points rest := by
  obtain ⟨⟨points, behind⟩, read, ended⟩ := except_bind_eq_ok.1 success
  cases ended
  have strings := strings_of_readPoints read
  refine ⟨points, rfl, strings.whole, strings.split, fun cursor left => ?_⟩
  exact (strings.quotes portable cursor left).reads _ (Nat.lt_succ_self _)

end RouteTypes.Yaml.Lexeme
