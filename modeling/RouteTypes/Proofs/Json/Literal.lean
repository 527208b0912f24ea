import RouteTypes.Proofs.Json.Numeral

/-!
# The form of numbers

What a reader takes for a scalar is one of the words, or a number: a sign or none, a whole part
without superfluous zeros, and a fraction and an exponent, both of which may be left out
(`literal_of_readScalar`).
-/

namespace RouteTypes

/-- What holds of the characters of a text is decided by going through the text. Without this
instance one that goes through all characters may be found. -/
instance (priority := high) decidableForallMem {text : List Char} {property : Char → Prop}
    [DecidablePred property] : Decidable (∀ c ∈ text, property c) :=
  List.decidableBAll property text

namespace Json

/-- The exponent of a number as it is written. -/
structure Exponent where
  mark : Char
  sign : List Char
  digits : List Char
  isMark : mark = 'e' ∨ mark = 'E'
  isSign : sign = [] ∨ sign = ['+'] ∨ sign = ['-']
  areDigits : ∀ c ∈ digits, isDigit c
  nonempty : digits ≠ []

namespace Exponent

/-- The characters of an exponent. -/
def text (exponent : Exponent) : List Char :=
  exponent.mark :: (exponent.sign ++ exponent.digits)

/-- The power of ten that an exponent stands for. -/
def power (exponent : Exponent) : Int :=
  Binary64.signed (exponent.sign == ['-']) (Nat.ofDigitChars 10 exponent.digits 0)

end Exponent

/-- A number as it is written. Where it has no digits behind the point, it has no point. -/
structure Numeral where
  negative : Bool
  whole : List Char
  fraction : List Char
  exponent : Option Exponent
  wholeDigits : ∀ c ∈ whole, isDigit c
  natural : whole = ['0'] ∨ ∃ c later, whole = c :: later ∧ c ≠ '0'
  fractionDigits : ∀ c ∈ fraction, isDigit c

namespace Numeral

/-- The characters of a fraction. -/
def fractionText (numeral : Numeral) : List Char :=
  if numeral.fraction = [] then [] else '.' :: numeral.fraction

/-- The characters of the exponent, if there is one. -/
def exponentText (numeral : Numeral) : List Char :=
  match numeral.exponent with
  | some exponent => exponent.text
  | none => []

/-- The characters of a number behind its sign. -/
def unsigned (numeral : Numeral) : List Char :=
  numeral.whole ++ (numeral.fractionText ++ numeral.exponentText)

/-- The characters of a number. -/
def text (numeral : Numeral) : List Char :=
  withSign numeral.negative numeral.unsigned

/-- The scalar that a number stands for. -/
def scalar (numeral : Numeral) : Except Stop Scalar :=
  number numeral.negative numeral.whole numeral.fraction (numeral.exponent.map Exponent.power)

/-- A number begins with a digit behind its sign. -/
theorem exists_digit (numeral : Numeral) : ∃ c later, numeral.whole = c :: later ∧ isDigit c := by
  have digits := numeral.wholeDigits
  rcases numeral.natural with zero | ⟨c, later, whole, _⟩
  · exact ⟨'0', [], zero, rfl⟩
  · exact ⟨c, later, whole, digits c (whole ▸ List.mem_cons_self)⟩

theorem text_ne_nil (numeral : Numeral) : numeral.text ≠ [] := by
  obtain ⟨c, later, whole, _⟩ := numeral.exists_digit
  unfold text withSign unsigned
  split <;> simp [whole]

end Numeral

/-! ## The characters of numbers -/

/-- The characters that numbers consist of. -/
def numberChars : List Char :=
  "0123456789-+.eE".toList

theorem mem_numberChars {c : Char} (digit : isDigit c) : c ∈ numberChars := by
  have codes : ∀ code < 10, Char.ofNat (48 + code) ∈ numberChars := by decide
  simp only [isDigit, Bool.and_eq_true, decide_eq_true_eq] at digit
  have lower : 48 ≤ c.toNat := digit.1
  have upper : c.toNat ≤ 57 := digit.2
  have member := codes (c.toNat - 48) (by omega)
  rwa [Nat.add_sub_cancel' lower, Char.ofNat_toNat] at member

theorem Exponent.chars (exponent : Exponent) : ∀ c ∈ exponent.text, c ∈ numberChars := by
  intro c member
  rcases List.mem_cons.1 member with rfl | member
  · rcases exponent.isMark with same | same <;> rw [same] <;> decide
  rcases List.mem_append.1 member with member | member
  · have signs : ∀ sign ∈ [[], ['+'], ['-']], ∀ c ∈ sign, c ∈ numberChars := by decide
    exact signs exponent.sign (by simpa using exponent.isSign) c member
  · exact mem_numberChars (exponent.areDigits c member)

theorem Numeral.chars (numeral : Numeral) : ∀ c ∈ numeral.unsigned, c ∈ numberChars := by
  intro c member
  rcases List.mem_append.1 member with member | member
  · exact mem_numberChars (numeral.wholeDigits c member)
  rcases List.mem_append.1 member with member | member
  · unfold fractionText at member
    split at member
    next => cases member
    next =>
      rcases List.mem_cons.1 member with rfl | member
      · decide
      · exact mem_numberChars (numeral.fractionDigits c member)
  · unfold exponentText at member
    split at member
    next exponent _ => exact exponent.chars c member
    next => cases member

theorem Numeral.chars_text (numeral : Numeral) : ∀ c ∈ numeral.text, c ∈ numberChars := by
  intro c member
  unfold text withSign at member
  split at member
  next =>
    rcases List.mem_cons.1 member with rfl | member
    · decide
    · exact numeral.chars c member
  next => exact numeral.chars c member

/-! ## What is read -/

variable {text rest : List Char}

theorem spanDigits_eq (text : List Char) :
    text = (spanDigits text).1 ++ (spanDigits text).2 ∧ ∀ c ∈ (spanDigits text).1, isDigit c :=
  ⟨List.takeWhile_append_dropWhile.symm, List.all_eq_true.1 List.all_takeWhile⟩

theorem natural_of_wholeDigits {whole : List Char} (found : wholeDigits text = some (whole, rest)) :
    whole = ['0'] ∨ ∃ c later, whole = c :: later ∧ c ≠ '0' := by
  unfold wholeDigits at found
  split at found
  next =>
    cases found
    exact .inl rfl
  next c later notZero =>
    split at found
    next digit =>
      simp only [Option.some.injEq, spanDigits, Prod.mk.injEq, List.takeWhile_cons, digit, if_true]
        at found
      refine .inr ⟨c, _, found.1.symm, ?_⟩
      rintro rfl
      exact notZero rfl
    next => cases found
  next => cases found

/-- The digits behind the point, or none. -/
theorem fractionDigits_eq (text : List Char) :
    ∃ fraction behind, fractionDigits text = (fraction, behind) ∧ (∀ c ∈ fraction, isDigit c) ∧
      text = (if fraction = [] then [] else '.' :: fraction) ++ behind := by
  unfold fractionDigits
  split
  next c later =>
    split
    next digit =>
      obtain ⟨same, digits⟩ := spanDigits_eq (c :: later)
      refine ⟨_, _, rfl, digits, ?_⟩
      rw [if_neg (by simp [digit]), List.cons_append]
      exact congrArg _ same
    next => exact ⟨[], _, rfl, nofun, rfl⟩
  next => exact ⟨[], _, rfl, nofun, rfl⟩

/-- The sign of an exponent, or none. -/
theorem splitSign_eq (text : List Char) :
    ∃ sign behind, Number.splitSign text = (sign == ['-'], behind) ∧
      (sign = [] ∨ sign = ['+'] ∨ sign = ['-']) ∧ text = sign ++ behind := by
  unfold Number.splitSign
  split
  next behind => exact ⟨['-'], behind, rfl, .inr (.inr rfl), rfl⟩
  next behind => exact ⟨['+'], behind, rfl, .inr (.inl rfl), rfl⟩
  next => exact ⟨[], text, rfl, .inl rfl, rfl⟩

/-- The exponent at the front of a text, or none. -/
theorem exponentPart_eq (text : List Char) :
    ∃ (exponent : Option Exponent) (behind : List Char),
      exponentPart text = (exponent.map Exponent.power, behind) ∧
        text = (match exponent with
          | some exponent => exponent.text
          | none => []) ++ behind := by
  unfold exponentPart
  split
  next c later =>
    split
    next marked =>
      obtain ⟨sign, unsigned, split, isSign, same⟩ := splitSign_eq later
      rw [split]
      dsimp only
      split
      next => exact ⟨none, _, rfl, rfl⟩
      next digits behind noDigits spanned =>
        obtain ⟨isText, areDigits⟩ := spanDigits_eq unsigned
        rw [spanned] at isText areDigits
        have isMark : c = 'e' ∨ c = 'E' := by simpa using marked
        let exponent : Exponent :=
          ⟨c, sign, digits, isMark, isSign, areDigits, noDigits⟩
        exact ⟨some exponent, behind, rfl, by simp [exponent, Exponent.text, same, isText]⟩
    next => exact ⟨none, _, rfl, rfl⟩
  next => exact ⟨none, _, rfl, rfl⟩

/-- The characters of a word or number, and the scalar that it stands for. -/
inductive Literal : List Char → Scalar → Prop where
  | word {word : List Char × Scalar} (known : word ∈ words) : Literal word.1 word.2
  | number (numeral : Numeral) {scalar : Scalar} (stands : numeral.scalar = .ok scalar) :
      Literal numeral.text scalar

/-- What a reader takes for a scalar is a word or a number. -/
theorem literal_of_readScalar {scalar : Scalar} (success : readScalar text = .ok (scalar, rest)) :
    ∃ literal, text = literal ++ rest ∧ Literal literal scalar := by
  rcases readScalar_eq_ok success with ⟨word, known, same, rfl⟩ |
    ⟨negative, c, later, _, rfl, isNumber⟩
  · exact ⟨word.1, same, .word known⟩
  rw [readNumber, Option.map_eq_some_iff] at isNumber
  obtain ⟨⟨whole, behind⟩, found, made⟩ := isNumber
  obtain ⟨fraction, afterFraction, isFraction, fractionDigits, fractionText⟩ :=
    fractionDigits_eq behind
  obtain ⟨exponent, afterExponent, isExponent, exponentText⟩ := exponentPart_eq afterFraction
  let numeral : Numeral := ⟨negative, whole, fraction, exponent, digits_of_wholeDigits found,
    natural_of_wholeDigits found, fractionDigits⟩
  have value : numeral.scalar.map (·, afterExponent) = .ok (scalar, rest) := by
    dsimp only at made
    rw [isFraction] at made
    dsimp only at made
    rw [isExponent] at made
    exact made
  cases isScalar : numeral.scalar with
  | error =>
      rw [isScalar] at value
      cases value
  | ok =>
      rw [isScalar] at value
      cases value
      refine ⟨numeral.text, ?_, .number numeral isScalar⟩
      have unsigned : c :: later = numeral.unsigned ++ rest := by
        rw [← append_of_wholeDigits found, fractionText, exponentText]
        simp [numeral, Numeral.unsigned, Numeral.fractionText, Numeral.exponentText]
      rw [unsigned, Numeral.text]
      cases negative <;> rfl

/-! ## The characters of words and numbers -/

/-- The characters that words and numbers begin with, behind the sign of a number. -/
def literalStarts : List Char :=
  "0123456789ntfNI".toList

/-- The characters that words and numbers consist of. -/
def literalChars : List Char :=
  numberChars ++ "nultrfasNIiy".toList

theorem Literal.chars {literal : List Char} {scalar : Scalar} (isLiteral : Literal literal scalar) :
    ∀ c ∈ literal, c ∈ literalChars := by
  have chars : ∀ word ∈ words, ∀ c ∈ word.1, c ∈ literalChars := by decide
  cases isLiteral with
  | word known => exact chars _ known
  | number numeral => exact fun c member => List.mem_append_left _ (numeral.chars_text c member)

/-- A word or number begins with a letter or digit, maybe behind a minus. -/
theorem Literal.starts {literal : List Char} {scalar : Scalar}
    (isLiteral : Literal literal scalar) :
    ∃ c later, c ∈ literalStarts ∧ (literal = c :: later ∨ literal = '-' :: c :: later) := by
  cases isLiteral with
  | word known =>
      rw [words_eq] at known
      simp only [List.mem_cons, List.not_mem_nil, or_false] at known
      rcases known with rfl | rfl | rfl | rfl | rfl | rfl
      · exact ⟨_, _, by decide, .inl rfl⟩
      · exact ⟨_, _, by decide, .inl rfl⟩
      · exact ⟨_, _, by decide, .inl rfl⟩
      · exact ⟨_, _, by decide, .inl rfl⟩
      · exact ⟨_, _, by decide, .inl rfl⟩
      · exact ⟨_, _, by decide, .inr rfl⟩
  | number numeral =>
      have digits : ∀ c ∈ numberChars, isDigit c → c ∈ literalStarts := by decide
      obtain ⟨c, later, whole, digit⟩ := numeral.exists_digit
      refine ⟨c, later ++ (numeral.fractionText ++ numeral.exponentText),
        digits c (mem_numberChars digit) digit, ?_⟩
      unfold Numeral.text withSign Numeral.unsigned
      rw [whole]
      split
      next => exact .inr rfl
      next => exact .inl rfl

end Json

end RouteTypes
