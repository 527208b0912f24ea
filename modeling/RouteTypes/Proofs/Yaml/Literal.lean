import Mathlib.Data.List.TakeWhile
import RouteTypes.Proofs.Json.Portable
import RouteTypes.Proofs.Number.Integer
import RouteTypes.Yaml.Scalar

/-!
# Words and numbers in both formats

A plain scalar of YAML has a tag that follows from its form. The words and numbers of JSON that are
portable have the tags of truth values, numbers and the absent value, and stand for the scalar that
they are in JSON (`value_of_literal`).
-/

namespace RouteTypes

open Json (numberChars)

variable {text behind : List Char}

/-! ## Digits and numbers -/

namespace Number

theorem digitValue?_of_isDigit {c : Char} (digit : Json.isDigit c) :
    digitValue? 10 c = some (c.toNat - '0'.toNat) := by
  simp only [Json.isDigit, Bool.and_eq_true, decide_eq_true_eq] at digit
  have lower : 48 ≤ c.toNat := digit.1
  have upper : c.toNat ≤ 57 := digit.2
  rw [digitValue?_ten, if_pos (by omega)]
  rfl

/-- No digit goes on there. -/
def Stops (behind : List Char) : Prop :=
  ∀ c ∈ behind.head?, digitValue? 10 c = none ∧ c ≠ '_'

theorem moreDigits_append (digits : ∀ c ∈ text, Json.isDigit c) (stops : Stops behind)
    (value count : Nat) :
    moreDigits 10 value count (text ++ behind) =
      some ⟨Nat.ofDigitChars 10 text value, count + text.length, behind⟩ := by
  induction text generalizing value count with
  | nil =>
      cases behind with
      | nil => rfl
      | cons c later =>
          obtain ⟨none, mark⟩ := stops c rfl
          simp [moreDigits, none, mark]
  | cons c text ih =>
      rw [List.forall_mem_cons] at digits
      have known := digitValue?_of_isDigit digits.1
      have mark : c ≠ '_' := by
        rintro rfl
        exact absurd digits.1 (by decide)
      rw [List.cons_append, moreDigits, known]
      · dsimp only
        rw [ih digits.2, Nat.ofDigitChars_cons, Nat.mul_comm value, List.length_cons, Nat.add_assoc,
          Nat.add_comm 1]
      · exact fun _ _ same => absurd same mark

theorem digits?_append {c : Char} (digits : ∀ other ∈ c :: text, Json.isDigit other)
    (stops : Stops behind) :
    digits? 10 (c :: text ++ behind) =
      some ⟨Nat.ofDigitChars 10 (c :: text) 0, (c :: text).length, behind⟩ := by
  rw [List.forall_mem_cons] at digits
  rw [List.cons_append, digits?, digitValue?_of_isDigit digits.1]
  dsimp only
  rw [moreDigits_append digits.2 stops, Nat.ofDigitChars_cons, Nat.mul_zero, Nat.zero_add,
    List.length_cons, Nat.add_comm]

/-- The characters of numbers are in plain form. -/
theorem plain_numberChars (chars : ∀ c ∈ text, c ∈ numberChars) :
    plain (String.ofList text) = text := by
  have kept : ∀ c ∈ numberChars, plainChar c = c ∧ isMargin c = false := by decide
  have front (some : List Char) (chars : ∀ c ∈ some, c ∈ numberChars) :
      some.dropWhile isMargin = some := by
    cases some with
    | nil => rfl
    | cons c later => simp [(kept c (chars c List.mem_cons_self)).2]
  have back := front text.reverse fun c member => chars c (List.mem_reverse.1 member)
  rw [plain_eq, String.toList_ofList, trimMargins, front text chars, back, List.reverse_reverse]
  exact (List.map_congr_left fun c member => (kept c (chars c member)).1).trans (List.map_id _)

theorem splitSign_digit {c : Char} (digit : Json.isDigit c) :
    splitSign (c :: text) = (false, c :: text) :=
  Json.splitSign_cons (Json.ne_of_isDigit digit (by decide))
    (Json.ne_of_isDigit digit (by decide)) text

theorem readInteger_whole (numeral : Json.Numeral) (short : numeral.whole.length ≤ maxDigits) :
    readInteger 10 (String.ofList numeral.whole) =
      .ok (Nat.ofDigitChars 10 numeral.whole 0) := by
  obtain ⟨c, later, whole, digit⟩ := numeral.exists_digit
  have digits := numeral.wholeDigits
  have chars : ∀ c ∈ numeral.whole, c ∈ numberChars := fun c member =>
    Json.mem_numberChars (digits c member)
  refine readInteger_ten.2 ⟨false, numeral.whole, _, _, ?_, ?_, short, rfl⟩
  · rw [plain_numberChars chars, whole, splitSign_digit digit]
  · rw [whole] at digits ⊢
    have noMore : Stops [] := nofun
    have all := digits?_append digits noMore
    rwa [List.append_nil] at all

@[simp] theorem splitSign_exponent (exponent : Json.Exponent) :
    splitSign (exponent.sign ++ exponent.digits) = (exponent.sign == ['-'], exponent.digits) := by
  obtain ⟨c, later, digits⟩ := List.exists_cons_of_ne_nil exponent.nonempty
  have digit := exponent.areDigits c (digits ▸ List.mem_cons_self)
  rcases exponent.isSign with same | same | same <;> rw [same]
  · rw [digits]
    exact splitSign_digit digit
  · rfl
  · rfl

@[simp] theorem exponent?_text (exponent : Json.Exponent) :
    exponent? exponent.text = some exponent.power := by
  obtain ⟨c, later, digits⟩ := List.exists_cons_of_ne_nil exponent.nonempty
  have areDigits := exponent.areDigits
  have marked : (exponent.mark == 'e' || exponent.mark == 'E') = true := by
    simpa using exponent.isMark
  rw [digits] at areDigits
  have noMore : Stops [] := nofun
  have read := digits?_append areDigits noMore
  rw [List.append_nil, ← digits] at read
  rw [Json.Exponent.text, exponent?, if_pos marked, splitSign_exponent]
  dsimp only
  rw [read]
  rfl

theorem stops_exponent (numeral : Json.Numeral) : Stops numeral.exponentText := by
  intro c first
  unfold Json.Numeral.exponentText at first
  split at first
  next exponent _ =>
    cases first
    rcases exponent.isMark with same | same <;> rw [same] <;> decide
  next => cases first

@[simp] theorem exponent?_exponentText (numeral : Json.Numeral) :
    exponent? numeral.exponentText =
      some ((numeral.exponent.map Json.Exponent.power).getD 0) := by
  unfold Json.Numeral.exponentText
  cases numeral.exponent with
  | none => rfl
  | some exponent => exact exponent?_text exponent

theorem fraction_append {value count : Nat} (nonempty : text ≠ [])
    (digits : ∀ c ∈ text, Json.isDigit c) (stops : Stops behind) :
    fraction ⟨value, count, '.' :: (text ++ behind)⟩ =
      some ⟨Nat.ofDigitChars 10 text value, text.length, behind⟩ := by
  obtain ⟨c, later, rfl⟩ := List.exists_cons_of_ne_nil nonempty
  rw [List.forall_mem_cons] at digits
  rw [fraction, List.cons_append]
  simp only [digitValue?_of_isDigit digits.1]
  rw [moreDigits_append digits.2 stops, Nat.ofDigitChars_cons, Nat.mul_comm value,
    List.length_cons, Nat.add_comm 1]

/-- What begins like a number is no name of a value that is none. -/
theorem named?_digit {c : Char} (digit : Json.isDigit c) (negative : Bool) :
    named? negative (c :: text) = none := by
  have first : c.toLower ≠ 'i' ∧ c.toLower ≠ 'n' := by
    have each : ∀ c ∈ numberChars, c.toLower ≠ 'i' ∧ c.toLower ≠ 'n' := by decide
    exact each c (Json.mem_numberChars digit)
  simp [named?, first]

/-- A number with digits behind its point. -/
theorem readFloat_unsigned (numeral : Json.Numeral) (pointed : numeral.fraction ≠ []) :
    readFloat (String.ofList numeral.unsigned) =
      .ok (Binary64.ofDecimal false (Nat.ofDigitChars 10 (numeral.whole ++ numeral.fraction) 0)
        ((numeral.exponent.map Json.Exponent.power).getD 0 - numeral.fraction.length)) := by
  obtain ⟨c, later, whole, digit⟩ := numeral.exists_digit
  have digits := numeral.wholeDigits
  have behind : numeral.unsigned =
      c :: (later ++ '.' :: (numeral.fraction ++ numeral.exponentText)) := by
    simp [Json.Numeral.unsigned, Json.Numeral.fractionText, pointed, whole]
  have stops : Stops ('.' :: (numeral.fraction ++ numeral.exponentText)) := by
    intro c first
    cases first
    decide
  have notPoint : c ≠ '.' := Json.ne_of_isDigit digit (by decide)
  rw [whole] at digits
  have read := digits?_append digits stops
  rw [readFloat, plain_numberChars numeral.chars, behind, splitSign_digit digit]
  dsimp only
  rw [named?_digit digit]
  dsimp only
  have isDecimal : decimal? false (c :: (later ++ '.' :: (numeral.fraction ++
      numeral.exponentText))) =
        some (Binary64.ofDecimal false
          (Nat.ofDigitChars 10 (numeral.whole ++ numeral.fraction) 0)
          ((numeral.exponent.map Json.Exponent.power).getD 0 - numeral.fraction.length)) := by
    unfold decimal?
    extract_lets start
    have starts : start = digits? 10 (c :: (later ++ '.' :: (numeral.fraction ++
        numeral.exponentText))) := by
      unfold start
      split
      next same => exact absurd (List.cons.inj same).1 notPoint
      next => rfl
    rw [starts, ← List.cons_append, read, Option.bind_some,
      fraction_append pointed numeral.fractionDigits (stops_exponent numeral)]
    dsimp only
    rw [exponent?_exponentText, whole, Nat.ofDigitChars_append]
    rfl
  rw [isDecimal]

end Number

namespace Binary64

@[simp] theorem neg_ofRatio (numerator denominator : Nat) :
    (ofRatio false numerator denominator).neg = ofRatio true numerator denominator := by
  unfold ofRatio
  split
  next => rfl
  next =>
    exact apply_ite neg _ _ _

@[simp] theorem neg_ofDecimal (digits : Nat) (exponent : Int) :
    (ofDecimal false digits exponent).neg = ofDecimal true digits exponent := by
  unfold ofDecimal
  split
  next => rfl
  split
  next => rfl
  split
  next => rfl
  split <;> exact neg_ofRatio _ _

end Binary64

/-! ## Tags -/

namespace Yaml

open Json (Numeral Exponent)

namespace Tag

theorem withoutLineEnd_of_chars (chars : ∀ c ∈ text, c ∈ numberChars) :
    withoutLineEnd text = text := by
  have noLineEnd : text.getLast? ≠ some '\n' := by
    intro last
    exact absurd (chars '\n' (List.mem_of_getLast? last)) (by decide)
  rw [withoutLineEnd, if_neg (by simpa using noLineEnd)]

theorem isDigit_eq (c : Char) : c.isDigit = Json.isDigit c := by
  simp [Char.isDigit, Json.isDigit, Char.le_def]

theorem isDigitChar_of_isDigit {c : Char} (digit : Json.isDigit c) : isDigitChar c := by
  simp [isDigitChar, isDigit_eq, digit]

/-- The sign of a number is taken away. -/
@[simp] theorem unsigned_text (numeral : Numeral) : unsigned numeral.text = numeral.unsigned := by
  obtain ⟨c, later, whole, digit⟩ := numeral.exists_digit
  have first :
      numeral.unsigned = c :: (later ++ (numeral.fractionText ++ numeral.exponentText)) := by
    rw [Numeral.unsigned, whole, List.cons_append]
  unfold Numeral.text Json.withSign
  split
  next => rfl
  next =>
    have plus : c ≠ '+' := Json.ne_of_isDigit digit (by decide)
    have minus : c ≠ '-' := Json.ne_of_isDigit digit (by decide)
    rw [first, unsigned]
    · exact fun _ same => plus (List.cons.inj same).1
    · exact fun _ same => minus (List.cons.inj same).1

/-- A text that consists of the characters of numbers is no word for a truth value. -/
theorem isTruth_of_chars (chars : ∀ c ∈ text, c ∈ numberChars) : isTruth text = false :=
  Json.any_word_eq_false (by decide) chars

/-- Without a point, a number has no fraction. -/
theorem isFloat_integer (numeral : Numeral) (integer : numeral.unsigned = numeral.whole) :
    isFloat numeral.text = false := by
  obtain ⟨c, later, whole, digit⟩ := numeral.exists_digit
  have noPoint : Text.cut '.' numeral.whole = (numeral.whole, none) := by
    have left : numeral.whole.dropWhile (· != '.') = [] := by
      rw [List.dropWhile_eq_nil_iff]
      intro c member
      exact bne_iff_ne.2 (Json.ne_of_isDigit (numeral.wholeDigits c member) (by decide))
    rw [Text.cut, left]
  have first : ∀ next later, numeral.text ≠ '.' :: next :: later := by
    intro next later same
    have point : c ≠ '.' := Json.ne_of_isDigit digit (by decide)
    rw [Numeral.text, integer, whole] at same
    unfold Json.withSign at same
    split at same
    next => cases same
    next => exact point (List.cons.inj same).1
  have names : [".inf", ".Inf", ".INF"].any (·.toList == numeral.whole) = false :=
    Json.any_word_eq_false (by decide) (integer ▸ numeral.chars)
  have others : [".nan", ".NaN", ".NAN"].any (·.toList == numeral.text) = false :=
    Json.any_word_eq_false (by decide) numeral.chars_text
  have decimal : isDecimal numeral.whole = false := by rw [isDecimal, noPoint]
  have sexagesimal : isSexagesimalDecimal numeral.whole = false := by
    rw [isSexagesimalDecimal, noPoint]
  rw [isFloat, unsigned_text, integer, decimal, sexagesimal, names, others]
  · rfl
  · exact first

theorem isInteger_integer (numeral : Numeral) (integer : numeral.unsigned = numeral.whole) :
    isInteger numeral.text = true := by
  rw [isInteger, unsigned_text, integer]
  rcases numeral.natural with zero | ⟨c, later, whole, notZero⟩
  · rw [zero]
    rfl
  · have digits := numeral.wholeDigits
    rw [whole, List.forall_mem_cons] at digits
    have natural : isNatural (c :: later) = true := by
      simp only [isNatural, isDigit_eq, digits.1, bne_iff_ne.2 notZero, Bool.true_and,
        List.all_eq_true]
      exact fun other member => isDigitChar_of_isDigit (digits.2 other member)
    rw [whole]
    split
    next same => exact absurd (List.cons.inj same).1 notZero
    next same => exact absurd (List.cons.inj same).1 notZero
    next same => exact absurd (List.cons.inj same).1 notZero
    next => rfl
    next => rw [natural, Bool.true_or]

theorem isExponent_text {exponent : Exponent} (signed : exponent.sign ≠ []) :
    isExponent exponent.text = true := by
  obtain ⟨c, later, digits⟩ := List.exists_cons_of_ne_nil exponent.nonempty
  have marked : (exponent.mark == 'e' || exponent.mark == 'E') = true := by
    simpa using exponent.isMark
  have areDigits : (c :: later).all Char.isDigit = true := by
    rw [List.all_eq_true]
    exact fun other member => (isDigit_eq other).trans (exponent.areDigits other (digits ▸ member))
  rw [Exponent.text, digits]
  rcases exponent.isSign with same | same | same
  · exact absurd same signed
  · rw [same, List.singleton_append, isExponent, marked, areDigits]
    rfl
  · rw [same, List.singleton_append, isExponent, marked, areDigits]
    rfl

/-- What stands behind the point is a fraction, where the exponent has a sign. -/
theorem isFraction_text {numeral : Numeral}
    (signed : ∀ exponent ∈ numeral.exponent, exponent.sign ≠ []) :
    isFraction (numeral.fraction ++ numeral.exponentText) = true := by
  have digits : ∀ c ∈ numeral.fraction, isDigitChar c := fun c member =>
    isDigitChar_of_isDigit (numeral.fractionDigits c member)
  cases isExponent : numeral.exponent with
  | none =>
      have noText : numeral.exponentText = [] := by rw [Numeral.exponentText, isExponent]
      rw [isFraction, noText, List.append_nil, List.dropWhile_eq_nil_iff.2 digits]
      rfl
  | some exponent =>
      have isText : numeral.exponentText = exponent.text := by
        rw [Numeral.exponentText, isExponent]
      have stops : ∀ c ∈ exponent.text.head?, isDigitChar c = false := by
        intro c first
        cases first
        rcases exponent.isMark with same | same <;> rw [same] <;> decide
      rw [isFraction, isText, (Json.takeWhile_append_of_head digits stops).2]
      exact isExponent_text (signed exponent isExponent)

theorem isFloat_decimal {numeral : Numeral} (pointed : numeral.fraction ≠ [])
    (signed : ∀ exponent ∈ numeral.exponent, exponent.sign ≠ []) :
    isFloat numeral.text = true := by
  obtain ⟨c, later, whole, digit⟩ := numeral.exists_digit
  have digits := numeral.wholeDigits
  have split : numeral.unsigned =
      numeral.whole ++ '.' :: (numeral.fraction ++ numeral.exponentText) := by
    simp [Numeral.unsigned, Numeral.fractionText, pointed]
  have noPoint : ∀ c ∈ numeral.whole, (c != '.') = true := by
    intro c member
    exact bne_iff_ne.2 (Json.ne_of_isDigit (digits c member) (by decide))
  have stops : ∀ c ∈ ('.' :: (numeral.fraction ++ numeral.exponentText)).head?,
      (c != '.') = false := by simp
  have parts := Json.takeWhile_append_of_head noPoint stops
  have cut : Text.cut '.' numeral.unsigned =
      (numeral.whole, some (numeral.fraction ++ numeral.exponentText)) := by
    rw [Text.cut, split, parts.1, parts.2]
  have areDigits : isDigits numeral.whole = true := by
    rw [whole, List.forall_mem_cons] at digits
    rw [whole, isDigits, isDigit_eq, digits.1, Bool.true_and, List.all_eq_true]
    exact fun other member => isDigitChar_of_isDigit (digits.2 other member)
  have decimal : isDecimal numeral.unsigned = true := by
    rw [isDecimal, cut]
    dsimp only
    rw [areDigits, isFraction_text signed]
    rfl
  simp [isFloat, unsigned_text, decimal]

@[simp] theorem ofPoints_char (text : List Char) : ofPoints (text.map .char) = ofText text := by
  rw [ofPoints, if_neg (by simp), Point.map_toChar_char]

theorem ofText_integer {numeral : Numeral} (integer : numeral.unsigned = numeral.whole) :
    ofText numeral.text = .int := by
  have nonempty : numeral.text.isEmpty = false := by simpa using numeral.text_ne_nil
  simp [ofText, withoutLineEnd_of_chars numeral.chars_text, nonempty,
    isTruth_of_chars numeral.chars_text, isFloat_integer numeral integer,
    isInteger_integer numeral integer]

theorem ofText_decimal {numeral : Numeral} (pointed : numeral.fraction ≠ [])
    (signed : ∀ exponent ∈ numeral.exponent, exponent.sign ≠ []) :
    ofText numeral.text = .float := by
  have nonempty : numeral.text.isEmpty = false := by simpa using numeral.text_ne_nil
  simp [ofText, withoutLineEnd_of_chars numeral.chars_text, nonempty,
    isTruth_of_chars numeral.chars_text, isFloat_decimal pointed signed]

end Tag

/-! ## Values -/

namespace Scalar

/-- The sign is split from a number. -/
@[simp] theorem splitNumber_text (numeral : Numeral) :
    splitNumber numeral.text = .ok (numeral.negative, numeral.unsigned) := by
  obtain ⟨c, later, whole, digit⟩ := numeral.exists_digit
  have plus : c ≠ '+' := Json.ne_of_isDigit digit (by decide)
  have minus : c ≠ '-' := Json.ne_of_isDigit digit (by decide)
  unfold Numeral.text Json.withSign
  split
  next negative =>
    rw [negative]
    rfl
  next positive =>
    rw [Bool.not_eq_true] at positive
    rw [positive, Numeral.unsigned, whole, List.cons_append, splitNumber]
    · rintro ⟨⟩
    · exact fun _ same => minus (List.cons.inj same).1
    · exact fun _ same => plus (List.cons.inj same).1

theorem filter_chars (chars : ∀ c ∈ text, c ∈ numberChars) : text.filter (· != '_') = text := by
  have none : ∀ c ∈ numberChars, (c != '_') = true := by decide
  exact List.filter_eq_self.2 fun c member => none c (chars c member)

theorem positive_whole (numeral : Numeral) (short : numeral.whole.length ≤ Number.maxDigits) :
    positive numeral.whole = .ok (Nat.ofDigitChars 10 numeral.whole 0) := by
  have colon : numeral.whole.contains ':' = false := by
    rw [List.contains_eq_mem, decide_eq_false_iff_not]
    intro member
    exact absurd (numeral.wholeDigits ':' member) (by decide)
  have read : integerIn 10 numeral.whole = .ok (Nat.ofDigitChars 10 numeral.whole 0) := by
    rw [integerIn, Number.readInteger_whole numeral short]
    rfl
  rcases numeral.natural with zero | ⟨c, later, whole, notZero⟩
  · rw [zero]
    rfl
  · unfold positive
    split
    next same => rw [whole] at same; cases same
    next same => exact absurd (List.cons.inj (whole.symm.trans same)).1 notZero
    next same => exact absurd (List.cons.inj (whole.symm.trans same)).1 notZero
    next same => exact absurd (List.cons.inj (whole.symm.trans same)).1 notZero
    next same => exact absurd (List.cons.inj (whole.symm.trans same)).1 notZero
    next => rw [colon, if_neg Bool.false_ne_true, read]

theorem integer_text {numeral : Numeral} (integral : numeral.unsigned = numeral.whole)
    (short : numeral.whole.length ≤ Number.maxDigits) :
    integer numeral.text =
      .ok (Binary64.signed numeral.negative (Nat.ofDigitChars 10 numeral.whole 0)) := by
  rw [integer, filter_chars numeral.chars_text, splitNumber_text, integral]
  simp only [bind, Except.bind, positive_whole numeral short]
  cases numeral.negative <;> rfl

/-- A number whose exponent has a small letter. -/
def lowered (numeral : Numeral) : Numeral :=
  { numeral with
    exponent := numeral.exponent.map fun exponent =>
      { exponent with mark := 'e', isMark := .inl rfl } }

theorem lower_chars (chars : ∀ c ∈ text, c ∈ "0123456789-+.".toList) : Text.lower text = text := by
  have plain : ∀ c ∈ "0123456789-+.".toList,
      (if c == '\u0130' then ['i', '\u0307'] else [Text.lowerChar c]) = [c] := by decide
  rw [Text.lower, List.flatMap_congr fun c member => plain c (chars c member)]
  simp

theorem lower_digits (digits : ∀ c ∈ text, Json.isDigit c) : Text.lower text = text := by
  have small : ∀ c ∈ numberChars, Json.isDigit c → c ∈ "0123456789-+.".toList := by decide
  exact lower_chars fun c member =>
    small c (Json.mem_numberChars (digits c member)) (digits c member)

@[simp] theorem lower_append (front behind : List Char) :
    Text.lower (front ++ behind) = Text.lower front ++ Text.lower behind :=
  List.flatMap_append

theorem lower_cons {c : Char} (small : c ∈ "0123456789-+.".toList) (behind : List Char) :
    Text.lower (c :: behind) = c :: Text.lower behind := by
  have first : ∀ other ∈ [c], other ∈ "0123456789-+.".toList := by simpa using small
  rw [← List.singleton_append, lower_append, lower_chars first, List.singleton_append]

@[simp] theorem lower_exponent (exponent : Exponent) :
    Text.lower exponent.text = 'e' :: (exponent.sign ++ exponent.digits) := by
  have sign : Text.lower exponent.sign = exponent.sign := by
    rcases exponent.isSign with same | same | same <;> rw [same] <;> rfl
  have mark : Text.lower [exponent.mark] = ['e'] := by
    rcases exponent.isMark with same | same <;> rw [same] <;> rfl
  rw [Exponent.text, ← List.singleton_append, lower_append, lower_append, mark, sign,
    lower_digits exponent.areDigits]
  rfl

@[simp]
theorem lower_text (numeral : Numeral) : Text.lower numeral.text = (lowered numeral).text := by
  have fraction : Text.lower numeral.fractionText = (lowered numeral).fractionText := by
    unfold Numeral.fractionText lowered
    dsimp only
    split
    next => rfl
    next => rw [lower_cons (by decide), lower_digits numeral.fractionDigits]
  have exponent : Text.lower numeral.exponentText = (lowered numeral).exponentText := by
    unfold Numeral.exponentText lowered
    cases numeral.exponent with
    | none => rfl
    | some exponent => exact lower_exponent exponent
  have unsigned : Text.lower numeral.unsigned = (lowered numeral).unsigned := by
    rw [Numeral.unsigned, lower_append, lower_append, lower_digits numeral.wholeDigits, fraction,
      exponent]
    rfl
  have negative : (lowered numeral).negative = numeral.negative := rfl
  rw [Numeral.text, Numeral.text, negative, ← unsigned]
  unfold Json.withSign
  split
  next => exact lower_cons (by decide) _
  next => rfl

theorem float_text {numeral : Numeral} (pointed : numeral.fraction ≠ []) :
    float numeral.text = .ok (Binary64.ofDecimal numeral.negative
      (Nat.ofDigitChars 10 (numeral.whole ++ numeral.fraction) 0)
      ((numeral.exponent.map Exponent.power).getD 0 - numeral.fraction.length)) := by
  have chars := (lowered numeral).chars
  have infinite : ((lowered numeral).unsigned == ".inf".toList) = false := by
    rw [beq_eq_false_iff_ne]
    intro same
    exact absurd (chars 'i' (same ▸ by decide)) (by decide)
  have indeterminate : ((lowered numeral).unsigned == ".nan".toList) = false := by
    rw [beq_eq_false_iff_ne]
    intro same
    exact absurd (chars 'n' (same ▸ by decide)) (by decide)
  have colon : (lowered numeral).unsigned.contains ':' = false := by
    rw [List.contains_eq_mem, decide_eq_false_iff_not]
    intro member
    exact absurd (chars ':' member) (by decide)
  have power : (lowered numeral).exponent.map Exponent.power =
      numeral.exponent.map Exponent.power := by
    cases found : numeral.exponent <;> simp [lowered, found, Exponent.power]
  have read := Number.readFloat_unsigned (lowered numeral) pointed
  rw [power] at read
  rw [float, filter_chars numeral.chars_text, lower_text, splitNumber_text]
  simp only [bind, Except.bind, infinite, indeterminate, colon, if_neg Bool.false_ne_true, floatOf,
    read, Except.mapError]
  have negative : (lowered numeral).negative = numeral.negative := rfl
  rw [negative]
  cases numeral.negative with
  | false => rfl
  | true => exact congrArg Except.ok (Binary64.neg_ofDecimal _ _)

/-- An integer stands for the same number in both formats. -/
theorem value_integer {numeral : Numeral} {scalar : RouteTypes.Scalar}
    (noFraction : numeral.fraction = []) (noExponent : numeral.exponent = none)
    (stands : numeral.scalar = .ok scalar) :
    value (Tag.ofText numeral.text) (numeral.text.map .char) = .ok scalar := by
  have integral : numeral.unsigned = numeral.whole := by
    simp [Numeral.unsigned, Numeral.fractionText, Numeral.exponentText, noFraction, noExponent]
  rw [Numeral.scalar, noFraction, noExponent, Json.number, if_pos (by decide)] at stands
  split at stands
  next => cases stands
  next short =>
    cases stands
    rw [Tag.ofText_integer integral, value, Point.map_toChar_char,
      integer_text integral (Nat.not_lt.1 short)]
    rfl

/-- A number with a point stands for the same number in both formats. -/
theorem value_decimal {numeral : Numeral} {scalar : RouteTypes.Scalar}
    (pointed : numeral.fraction ≠ []) (signed : ∀ exponent ∈ numeral.exponent, exponent.sign ≠ [])
    (stands : numeral.scalar = .ok scalar) :
    value (Tag.ofText numeral.text) (numeral.text.map .char) = .ok scalar := by
  have nonempty : numeral.fraction.isEmpty = false := by simpa using pointed
  rw [Numeral.scalar, Json.number, nonempty, Bool.false_and, if_neg Bool.false_ne_true] at stands
  cases stands
  rw [Tag.ofText_decimal pointed signed, value, Point.map_toChar_char, float_text pointed]
  rfl

/-- A portable word or number stands for the same scalar in both formats. -/
theorem value_of_literal {literal : List Char} {scalar : RouteTypes.Scalar}
    (isLiteral : Json.Literal literal scalar) (portable : Json.isPortableWord literal) :
    value (Tag.ofPoints (literal.map .char)) (literal.map .char) = .ok scalar := by
  rw [Tag.ofPoints_char]
  cases isLiteral with
  | word known =>
      rw [Json.words_eq] at known
      simp only [List.mem_cons, List.not_mem_nil, or_false] at known
      rcases known with rfl | rfl | rfl | rfl | rfl | rfl
      · rfl
      · rfl
      · rfl
      all_goals exact absurd portable (by decide)
  | number numeral stands =>
      rw [Json.isPortableWord_numeral] at portable
      rcases Json.portable_numeral portable with ⟨noFraction, noExponent⟩ | ⟨pointed, signed⟩
      · exact value_integer noFraction noExponent stands
      · exact value_decimal pointed signed stands

end Scalar

end Yaml

end RouteTypes
