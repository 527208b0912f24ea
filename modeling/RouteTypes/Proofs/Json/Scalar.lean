import RouteTypes.Json.Reader
import RouteTypes.Json.Writer

/-!
# Scalars in JSON

What is written for a scalar is read as this scalar. A string ends with its closing quote
(`readString_stringText`). A number ends where a mark follows, so what stands behind the mark does
not matter (`readNumber_append`).
-/

namespace RouteTypes.Json

/-! ## Strings -/

/-- Characters form a text. -/
@[simp] theorem ofPoints_char (text : List Char) :
    Scalar.ofPoints (text.map .char) = .text (String.ofList text) := by
  rw [Scalar.ofPoints, dif_neg (by simp), Point.map_toChar_char]

theorem digitValue?_hexDigit {digit : Nat} (small : digit < 16) :
    Number.digitValue? 16 (Utf8.hexDigit digit) = some digit := by
  revert digit
  decide

/-- A control character is read from its numeric escape. -/
theorem readUnicode_control {c : Char} (control : c.toNat < 32) {rest : List Char}
    (more : rest ≠ []) :
    readUnicode ('0' :: '0' :: Utf8.hexDigit (c.toNat / 16) :: Utf8.hexDigit (c.toNat % 16) ::
      rest) = .ok (.char c, rest) := by
  obtain ⟨next, later, rfl⟩ := List.exists_cons_of_ne_nil more
  have zero : Number.digitValue? 16 '0' = some 0 := by decide
  have code : c.toNat / 16 * 16 + c.toNat % 16 = c.toNat := by omega
  have single : isHighHalf c.toNat = false := by
    simp only [isHighHalf, Bool.and_eq_false_iff, decide_eq_false_iff_not]
    omega
  have isChar : Point.ofCode c.toNat = .char c := by
    rw [Point.ofCode, dif_neg (by simp only [Point.firstHalf]; omega), Char.ofNat_toNat]
  have digits : hexFour? ('0' :: '0' :: Utf8.hexDigit (c.toNat / 16) ::
      Utf8.hexDigit (c.toNat % 16) :: next :: later) = some (c.toNat, next :: later) := by
    rw [hexFour?, digitValue?_hexDigit (by omega), digitValue?_hexDigit (by omega), zero]
    simp [code]
  simp [readUnicode, digits, single, isChar]

/-- A short escape is read as its character. -/
theorem readPoints_escape {opening fuel : Nat} {letter c : Char} (known : escaped? letter = some c)
    (rest : List Char) :
    readPoints opening (fuel + 1) ('\\' :: letter :: rest) =
      (readPoints opening fuel rest).map fun result => (.char c :: result.1, result.2) := by
  have notUnicode : letter ≠ 'u' := by
    intro same
    subst same
    cases known
  rw [readPoints]
  · rw [known]
    cases readPoints opening fuel rest <;> rfl
  · exact notUnicode

/-- A character that needs no escape is read as it stands. -/
theorem readPoints_plain {opening fuel : Nat} {c : Char} (notQuote : c ≠ '"')
    (notEscape : c ≠ '\\') (visible : ¬c.toNat < 32) (rest : List Char) :
    readPoints opening (fuel + 1) (c :: rest) =
      (readPoints opening fuel rest).map fun result => (.char c :: result.1, result.2) := by
  rw [readPoints]
  · rw [if_neg visible]
    cases readPoints opening fuel rest <;> rfl
  · exact notQuote
  · exact notEscape

/-- The text of a character is a short escape, a numeric one, or the character itself. -/
theorem charText_cases (c : Char) :
    (∃ letter, escaped? letter = some c ∧ charText c = ['\\', letter]) ∨
      (c.toNat < 32 ∧ charText c = ['\\', 'u', '0', '0', Utf8.hexDigit (c.toNat / 16),
        Utf8.hexDigit (c.toNat % 16)]) ∨
      (c ≠ '"' ∧ c ≠ '\\' ∧ ¬c.toNat < 32 ∧ charText c = [c]) := by
  by_cases short : c ∈ ['"', '\\', '\n', '\r', '\t', '\x08', '\x0c']
  · simp only [List.mem_cons, List.not_mem_nil, or_false] at short
    rcases short with rfl | rfl | rfl | rfl | rfl | rfl | rfl <;> exact .inl ⟨_, rfl, rfl⟩
  · simp only [List.mem_cons, List.not_mem_nil, or_false, not_or] at short
    right
    by_cases control : c.toNat < 32
    · exact .inl ⟨control, by simp [charText, short, control]⟩
    · exact .inr ⟨short.1, short.2.1, control, by simp [charText, short, control]⟩

/-- A character of a string is read from its text. -/
theorem readPoints_charText (opening fuel : Nat) (c : Char) {rest : List Char} (more : rest ≠ []) :
    readPoints opening (fuel + 1) (charText c ++ rest) =
      (readPoints opening fuel rest).map fun result => (.char c :: result.1, result.2) := by
  rcases charText_cases c with ⟨letter, known, isText⟩ | ⟨control, isText⟩ |
    ⟨notQuote, notEscape, visible, isText⟩
  · rw [isText]
    exact readPoints_escape known rest
  · rw [isText]
    simp only [List.cons_append, List.nil_append]
    rw [readPoints, readUnicode_control control more]
    dsimp only [bind, Except.bind]
    cases readPoints opening fuel rest <;> rfl
  · rw [isText]
    exact readPoints_plain notQuote notEscape visible rest

theorem readPoints_flatMap (opening fuel : Nat) (text rest : List Char)
    (enough : text.length < fuel) :
    readPoints opening fuel (text.flatMap charText ++ '"' :: rest) =
      .ok (text.map .char, rest) := by
  induction text generalizing fuel with
  | nil =>
      obtain ⟨fuel, rfl⟩ := Nat.exists_eq_add_one_of_ne_zero (Nat.ne_zero_of_lt enough)
      rw [List.flatMap_nil, List.nil_append, readPoints]
      rfl
  | cons c text ih =>
      obtain ⟨fuel, rfl⟩ := Nat.exists_eq_add_one_of_ne_zero (Nat.ne_zero_of_lt enough)
      rw [List.flatMap_cons, List.append_assoc, readPoints_charText opening fuel c (by simp),
        ih fuel (by simpa using enough)]
      rfl

theorem length_le_flatMap_charText (text : List Char) :
    text.length ≤ (text.flatMap charText).length := by
  induction text with
  | nil => simp
  | cons c text ih =>
      have some : 1 ≤ (charText c).length := by
        rcases charText_cases c with ⟨_, _, isText⟩ | ⟨_, isText⟩ | ⟨_, _, _, isText⟩ <;>
          simp [isText]
      rw [List.flatMap_cons, List.length_append, List.length_cons]
      omega

/-- A string is read after its opening quote. -/
@[simp] theorem readString_stringText (text : String) (rest : List Char) :
    readString (text.toList.flatMap charText ++ '"' :: rest) = .ok (.text text, rest) := by
  have enough : text.toList.length <
      (text.toList.flatMap charText ++ '"' :: rest).length + 1 := by
    have := length_le_flatMap_charText text.toList
    rw [List.length_append]
    omega
  rw [readString, readPoints_flatMap _ _ _ _ enough]
  simp [bind, Except.bind, pure, Except.pure, ofPoints_char]

theorem toList_stringText (text : String) :
    (stringText text).toList = '"' :: (text.toList.flatMap charText ++ ['"']) := by
  rw [stringText, String.toList_ofList]
  rfl

/-! ## Where numbers end -/

/-- The characters that stand behind the items of lists and mappings. -/
def marks : List Char := [',', ']', '\x7d', '\n']

/-- A text that is empty or begins with a mark. No number goes on there. -/
def Ended (rest : List Char) : Prop :=
  ∀ c ∈ rest.head?, c ∈ marks

@[simp] theorem ended_nil : Ended [] := nofun

@[simp] theorem ended_cons {c : Char} {rest : List Char} : Ended (c :: rest) ↔ c ∈ marks := by
  simp [Ended]

theorem isDigit_mark {c : Char} (mark : c ∈ marks) : isDigit c = false := by
  simp only [marks, List.mem_cons, List.not_mem_nil, or_false] at mark
  rcases mark with rfl | rfl | rfl | rfl <;> rfl

theorem ne_of_mark {c other : Char} (mark : c ∈ marks) (notMark : other ∉ marks) : c ≠ other :=
  fun same => notMark (same ▸ mark)

variable {rest : List Char}

theorem spanDigits_ended (ended : Ended rest) : spanDigits rest = ([], rest) := by
  cases rest with
  | nil => rfl
  | cons c later =>
      have notDigit := isDigit_mark (ended_cons.1 ended)
      simp [spanDigits, notDigit]

theorem spanDigits_append (ended : Ended rest) (text : List Char) :
    spanDigits (text ++ rest) = ((spanDigits text).1, (spanDigits text).2 ++ rest) := by
  induction text with
  | nil => exact spanDigits_ended ended
  | cons c text ih =>
      rw [spanDigits, Prod.mk.injEq] at ih
      by_cases digit : isDigit c
      · simp [spanDigits, digit, ih]
      · simp [spanDigits, digit]

theorem splitSign_cons {c : Char} (notMinus : c ≠ '-') (notPlus : c ≠ '+') (text : List Char) :
    Number.splitSign (c :: text) = (false, c :: text) := by
  rw [Number.splitSign]
  · intro _ same
    exact notMinus (List.cons.inj same).1
  · intro _ same
    exact notPlus (List.cons.inj same).1

theorem splitSign_append (ended : Ended rest) (text : List Char) :
    Number.splitSign (text ++ rest) =
      ((Number.splitSign text).1, (Number.splitSign text).2 ++ rest) := by
  cases text with
  | nil =>
      cases rest with
      | nil => rfl
      | cons c later =>
          have mark := ended_cons.1 ended
          exact splitSign_cons (ne_of_mark mark (by decide)) (ne_of_mark mark (by decide)) later
  | cons c text =>
      by_cases minus : c = '-'
      · subst minus
        rfl
      · by_cases plus : c = '+'
        · subst plus
          rfl
        · rw [List.cons_append, splitSign_cons minus plus, splitSign_cons minus plus]
          rfl

theorem wholeDigits_cons {c : Char} (notZero : c ≠ '0') (text : List Char) :
    wholeDigits (c :: text) = if isDigit c then some (spanDigits (c :: text)) else none := by
  rw [wholeDigits]
  exact notZero

theorem wholeDigits_append (ended : Ended rest) (text : List Char) :
    wholeDigits (text ++ rest) = (wholeDigits text).map fun read => (read.1, read.2 ++ rest) := by
  cases text with
  | nil =>
      cases rest with
      | nil => rfl
      | cons c later =>
          have mark := ended_cons.1 ended
          rw [List.nil_append, wholeDigits_cons (ne_of_mark mark (by decide)), isDigit_mark mark]
          rfl
  | cons c text =>
      by_cases zero : c = '0'
      · subst zero
        rfl
      · rw [List.cons_append, wholeDigits_cons zero, wholeDigits_cons zero, ← List.cons_append,
          spanDigits_append ended]
        split <;> rfl

theorem fractionDigits_append (ended : Ended rest) (text : List Char) :
    fractionDigits (text ++ rest) =
      ((fractionDigits text).1, (fractionDigits text).2 ++ rest) := by
  match text with
  | [] =>
      cases rest with
      | nil => rfl
      | cons c later =>
          have notPoint : c ≠ '.' := ne_of_mark (ended_cons.1 ended) (by decide)
          simp [fractionDigits, notPoint]
  | [c] =>
      by_cases point : c = '.'
      · subst point
        cases rest with
        | nil => rfl
        | cons next later =>
            simp [fractionDigits, isDigit_mark (ended_cons.1 ended)]
      · simp [fractionDigits, point]
  | c :: next :: text =>
      by_cases point : c = '.'
      · subst point
        simp only [List.cons_append, fractionDigits]
        rw [← List.cons_append, spanDigits_append ended]
        split <;> rfl
      · simp [fractionDigits, point]

theorem exponentPart_append (ended : Ended rest) (text : List Char) :
    exponentPart (text ++ rest) = ((exponentPart text).1, (exponentPart text).2 ++ rest) := by
  cases text with
  | nil =>
      cases rest with
      | nil => rfl
      | cons c later =>
          have mark := ended_cons.1 ended
          have notLower : c ≠ 'e' := ne_of_mark mark (by decide)
          have notUpper : c ≠ 'E' := ne_of_mark mark (by decide)
          simp [exponentPart, notLower, notUpper]
  | cons c text =>
      simp only [List.cons_append, exponentPart]
      split
      next =>
        rw [splitSign_append ended]
        dsimp only
        rw [spanDigits_append ended]
        generalize spanDigits (Number.splitSign text).2 = read
        obtain ⟨digits, left⟩ := read
        cases digits <;> rfl
      next => rfl

/-- What stands behind a number is left as it is. -/
theorem readNumber_append (ended : Ended rest) (negative : Bool) (text : List Char) :
    readNumber negative (text ++ rest) = (readNumber negative text).map fun result =>
      result.map fun read => (read.1, read.2 ++ rest) := by
  rw [readNumber, readNumber, wholeDigits_append ended, Option.map_map, Option.map_map]
  congr 1
  funext read
  simp only [Function.comp_apply]
  rw [fractionDigits_append ended]
  dsimp only
  rw [exponentPart_append ended]
  dsimp only [bind, Except.bind]
  cases number negative read.1 (fractionDigits read.2).1
    (exponentPart (fractionDigits read.2).2).1 <;> rfl

/-! ## Words and numbers -/

theorem digit_of_wholeDigits {text : List Char} {read : List Char × List Char}
    (found : wholeDigits text = some read) : ∃ c later, text = c :: later ∧ isDigit c := by
  cases text with
  | nil => cases found
  | cons c later =>
      by_cases zero : c = '0'
      · subst zero
        exact ⟨_, _, rfl, rfl⟩
      · rw [wholeDigits_cons zero] at found
        by_cases digit : isDigit c
        · exact ⟨_, _, rfl, digit⟩
        · simp [digit] at found

theorem digit_of_readNumber {negative : Bool} {text : List Char}
    {result : Except Stop (Scalar × List Char)} (found : readNumber negative text = some result) :
    ∃ c later, text = c :: later ∧ isDigit c := by
  rw [readNumber, Option.map_eq_some_iff] at found
  obtain ⟨read, found, _⟩ := found
  exact digit_of_wholeDigits found

theorem word_of_readWord? {text : List Char} {result : Scalar × List Char}
    (found : readWord? text = some result) :
    ∃ word ∈ words, text = word.1 ++ result.2 ∧ result.1 = word.2 := by
  rw [readWord?, Option.map_eq_some_iff] at found
  obtain ⟨word, found, rfl⟩ := found
  have isPrefix := List.find?_some found
  rw [List.isPrefixOf_iff_prefix] at isPrefix
  obtain ⟨later, rfl⟩ := isPrefix
  exact ⟨word, List.mem_of_find?_eq_some found, by simp, rfl⟩

theorem ne_of_isDigit {c other : Char} (digit : isDigit c) (notDigit : isDigit other = false) :
    c ≠ other := by
  intro same
  rw [same, notDigit] at digit
  cases digit

/-- A number with its sign, which may be left out. -/
def withSign (negative : Bool) (text : List Char) : List Char :=
  if negative then '-' :: text else text

theorem words_eq :
    words = [(['n', 'u', 'l', 'l'], .null), (['t', 'r', 'u', 'e'], .bool true),
      (['f', 'a', 'l', 's', 'e'], .bool false), (['N', 'a', 'N'], .float .indeterminate),
      (['I', 'n', 'f', 'i', 'n', 'i', 't', 'y'], .float (.infinite false)),
      (['-', 'I', 'n', 'f', 'i', 'n', 'i', 't', 'y'], .float (.infinite true))] := by
  decide

/-- No word begins with a digit, and none with a minus and a digit. -/
theorem readWord?_withSign {c : Char} (digit : isDigit c) (negative : Bool) (text : List Char) :
    readWord? (withSign negative (c :: text)) = none := by
  have n : c ≠ 'n' := ne_of_isDigit digit (by decide)
  have t : c ≠ 't' := ne_of_isDigit digit (by decide)
  have f : c ≠ 'f' := ne_of_isDigit digit (by decide)
  have upperN : c ≠ 'N' := ne_of_isDigit digit (by decide)
  have upperI : c ≠ 'I' := ne_of_isDigit digit (by decide)
  have minus : c ≠ '-' := ne_of_isDigit digit (by decide)
  rw [readWord?, words_eq]
  cases negative <;>
    simp [withSign, n.symm, t.symm, f.symm, upperN.symm, upperI.symm, minus.symm]

/-- A text that begins with a digit, or with a minus and a digit, is read as a number. -/
theorem readScalar_withSign {c : Char} (digit : isDigit c) (negative : Bool) (text : List Char)
    {result : Except Stop (Scalar × List Char)}
    (found : readNumber negative (c :: text) = some result) :
    readScalar (withSign negative (c :: text)) = result := by
  unfold readScalar
  rw [readWord?_withSign digit]
  cases negative with
  | true => simp [withSign, found]
  | false =>
      have minus : c ≠ '-' := ne_of_isDigit digit (by decide)
      simp [withSign, minus, found]

/-- What is read as a scalar is a word or a number. -/
theorem readScalar_eq_ok {text : List Char} {result : Scalar × List Char}
    (success : readScalar text = .ok result) :
    (∃ word ∈ words, text = word.1 ++ result.2 ∧ result.1 = word.2) ∨
      ∃ negative c later, isDigit c ∧ text = withSign negative (c :: later) ∧
        readNumber negative (c :: later) = some (.ok result) := by
  unfold readScalar at success
  split at success
  next read found =>
    cases success
    exact .inl (word_of_readWord? found)
  next =>
    right
    split at success
    next negative unsigned signed =>
      split at success
      next _ isNumber =>
        subst success
        obtain ⟨c, later, rfl, digit⟩ := digit_of_readNumber isNumber
        refine ⟨negative, c, later, digit, ?_, isNumber⟩
        split at signed
        next =>
          cases signed
          rfl
        next =>
          cases signed
          rfl
      next => cases success

/-- A word is read whatever stands behind it. -/
theorem readScalar_word {word : List Char × Scalar} (member : word ∈ words) (rest : List Char) :
    readScalar (word.1 ++ rest) = .ok (word.2, rest) := by
  simp only [words, List.mem_cons, List.not_mem_nil, or_false] at member
  rcases member with rfl | rfl | rfl | rfl | rfl | rfl <;> rfl

/-- What stands behind a scalar is left as it is. -/
theorem readScalar_append (ended : Ended rest) {text : List Char} {scalar : Scalar}
    (success : readScalar text = .ok (scalar, [])) :
    readScalar (text ++ rest) = .ok (scalar, rest) := by
  rcases readScalar_eq_ok success with ⟨word, member, rfl, same⟩ |
    ⟨negative, c, later, digit, rfl, isNumber⟩
  · dsimp only at same
    rw [List.append_nil, readScalar_word member, same]
  · have whole : withSign negative (c :: later) ++ rest =
        withSign negative (c :: (later ++ rest)) := by
      cases negative <;> rfl
    rw [whole]
    refine readScalar_withSign digit negative _ ?_
    rw [← List.cons_append, readNumber_append ended, isNumber]
    rfl

/-! ## Scalars that are written -/

theorem isDigit_of_mem_toDigits {value : Nat} {c : Char} (member : c ∈ Nat.toDigits 10 value) :
    isDigit c := by
  have digit := Nat.isDigit_of_mem_toDigits (by decide) (by decide) member
  simpa [Char.isDigit, isDigit, Char.le_def] using digit

theorem head_toDigits {value : Nat} (positive : value ≠ 0) :
    ∃ c later, Nat.toDigits 10 value = c :: later ∧ c ≠ '0' := by
  induction value using Nat.strongRecOn with
  | ind value ih =>
      rw [Nat.toDigits_eq_if (by decide)]
      split
      next small =>
        have notZero : ∀ digit < 10, digit ≠ 0 → digit.digitChar ≠ '0' := by decide
        exact ⟨_, [], rfl, notZero value small positive⟩
      next large =>
        obtain ⟨c, later, digits, notZero⟩ := ih (value / 10) (by omega) (by omega)
        exact ⟨c, later ++ [(value % 10).digitChar], by rw [digits]; rfl, notZero⟩

theorem spanDigits_digits {text : List Char} (digits : ∀ c ∈ text, isDigit c) :
    spanDigits text = (text, []) := by
  induction text with
  | nil => rfl
  | cons c text ih =>
      have later := ih fun other member => digits other (List.mem_cons_of_mem _ member)
      rw [spanDigits, Prod.mk.injEq] at later
      simp [spanDigits, digits c List.mem_cons_self, later]

@[simp] theorem wholeDigits_toDigits (value : Nat) :
    wholeDigits (Nat.toDigits 10 value) = some (Nat.toDigits 10 value, []) := by
  by_cases zero : value = 0
  · subst zero
    rfl
  · obtain ⟨c, later, digits, notZero⟩ := head_toDigits zero
    have all : ∀ other ∈ c :: later, isDigit other := by
      intro other member
      rw [← digits] at member
      exact isDigit_of_mem_toDigits member
    rw [digits, wholeDigits_cons notZero, if_pos (all c List.mem_cons_self), spanDigits_digits all]

theorem readNumber_toDigits (negative : Bool) {value : Nat}
    (short : value < Nat.pow 10 Number.maxDigits) :
    readNumber negative (Nat.toDigits 10 value) =
      some (.ok (.int (Binary64.signed negative value), [])) := by
  have length : ¬Number.maxDigits < (Nat.toDigits 10 value).length := by
    rw [Nat.pow_eq, ← Nat.length_toDigits_le_iff (by decide) (by decide)] at short
    exact Nat.not_lt.2 short
  rw [readNumber, wholeDigits_toDigits]
  simp [fractionDigits, exponentPart, number, length, bind, Except.bind, pure, Except.pure,
    Nat.ofDigitChars_ten_toDigits]

@[simp] theorem signed_natAbs (value : Int) : Binary64.signed (value < 0) value.natAbs = value := by
  unfold Binary64.signed
  split
  next negative =>
    rw [decide_eq_true_eq] at negative
    omega
  next positive =>
    rw [decide_eq_true_eq] at positive
    omega

theorem toList_toString_int (value : Int) :
    (toString value).toList = withSign (value < 0) (Nat.toDigits 10 value.natAbs) := by
  cases value with
  | ofNat size => simp [withSign, Int.toString_eq_repr, Int.repr, Nat.repr]
  | negSucc size => simp [withSign, Int.toString_eq_repr, Int.repr, Nat.repr]

/-- An integer is read from its text. -/
theorem readScalar_integerText {value : Int} {text : String}
    (written : integerText value = .ok text) : readScalar text.toList = .ok (.int value, []) := by
  unfold integerText at written
  split at written
  next => cases written
  next short =>
    cases written
    rw [toList_toString_int]
    have found := readNumber_toDigits (value < 0) (Nat.not_le.1 short)
    obtain ⟨c, later, digits, digit⟩ := digit_of_readNumber found
    rw [digits] at found ⊢
    rw [readScalar_withSign digit _ _ found, signed_natAbs]

/-- The printed form of a number is read back as this number. -/
def ReadsBack (value : Binary64) : Prop :=
  readScalar value.shortestText.toList = .ok (.float value, [])

/-- A scalar other than a text is read from its text, provided that a finite number is read back
from its printed form. -/
theorem readScalar_scalarText {scalar : Scalar} {text : String}
    (written : scalarText scalar = .ok text) (noText : ∀ text, scalar ≠ .text text)
    (noBroken : ∀ text, scalar ≠ .broken text)
    (floats : ∀ negative significand exponent,
      scalar = .float (.finite negative significand exponent) →
        ReadsBack (.finite negative significand exponent)) :
    readScalar text.toList = .ok (scalar, []) := by
  cases scalar with
  | null =>
      cases written
      rfl
  | bool value =>
      cases value <;> cases written <;> rfl
  | int value => exact readScalar_integerText written
  | float value =>
      cases written
      cases value with
      | finite negative significand exponent => exact floats _ _ _ rfl
      | infinite negative => cases negative <;> rfl
      | indeterminate => rfl
  | text value => exact absurd rfl (noText value)
  | broken value => exact absurd rfl (noBroken value)
  | date | timestamp | bytes => cases written

/-! ## Where values begin -/

/-- The characters other than digits that begin words and numbers. -/
def initials : List Char := ['-', 'n', 't', 'f', 'N', 'I']

theorem initial_of_readScalar {text : List Char} {result : Scalar × List Char}
    (success : readScalar text = .ok result) :
    ∃ c later, text = c :: later ∧ (isDigit c ∨ c ∈ initials) := by
  rcases readScalar_eq_ok success with ⟨word, member, rfl, _⟩ |
    ⟨negative, c, later, digit, rfl, _⟩
  · rw [words_eq] at member
    simp only [List.mem_cons, List.not_mem_nil, or_false] at member
    rcases member with rfl | rfl | rfl | rfl | rfl | rfl <;> exact ⟨_, _, rfl, .inr (by decide)⟩
  · cases negative with
    | true => exact ⟨'-', c :: later, rfl, .inr (by decide)⟩
    | false => exact ⟨c, later, rfl, .inl digit⟩

theorem ne_of_initial {c other : Char} (initial : isDigit c ∨ c ∈ initials)
    (notInitial : ¬(isDigit other ∨ other ∈ initials)) : c ≠ other :=
  fun same => notInitial (same ▸ initial)

/-- The characters that begin values. -/
def IsStart (c : Char) : Prop :=
  (isDigit c ∨ c ∈ initials) ∨ c ∈ ['"', '\x7b', '[']

instance (c : Char) : Decidable (IsStart c) :=
  inferInstanceAs (Decidable (_ ∨ _))

theorem IsStart.ne {c other : Char} (start : IsStart c) (notStart : ¬IsStart other) :
    c ≠ other :=
  fun same => notStart (same ▸ start)

theorem skipSpace_start {c : Char} (start : IsStart c) (later : List Char) :
    skipSpace (c :: later) = c :: later := by
  have space : c ≠ ' ' := start.ne (by decide)
  have tab : c ≠ '\t' := start.ne (by decide)
  have newline : c ≠ '\n' := start.ne (by decide)
  have carriage : c ≠ '\r' := start.ne (by decide)
  simp [skipSpace, isSpace, space, tab, newline, carriage]

end RouteTypes.Json
