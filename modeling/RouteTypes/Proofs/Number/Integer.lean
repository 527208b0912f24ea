import Mathlib.Algebra.Group.Nat.Defs
import Mathlib.Data.List.Basic
import RouteTypes.Number.Reading

/-!
# The texts of integers

A text is read as an integer exactly if it is written in the following way: margins, a sign or
none, decimal digits of any script with at most one underscore between two of them, margins. The
digits are no more than a reader takes (`readInteger_eq_ok_iff`).
-/

namespace RouteTypes.Number

/-! ## Characters -/

theorem decimalValue?_lt {c : Char} {value : Nat} (digit : Text.decimalValue? c = some value) :
    value < 10 := by
  simp only [Text.decimalValue?, Option.map_eq_some_iff] at digit
  obtain ⟨start, found, rfl⟩ := digit
  have within := List.find?_some found
  simp only [Bool.and_eq_true, decide_eq_true_eq] at within
  omega

/-- No margin is a digit. -/
theorem decimalValue?_of_isMargin {c : Char} (margin : isMargin c = true) :
    Text.decimalValue? c = none := by
  have apart : ∀ start ∈ Text.zeros, ∀ range ∈ Text.blankRanges,
      range.2 < start ∨ start + 10 ≤ range.1 := by decide
  simp only [isMargin, Text.isBlank, Text.inRanges, Bool.and_eq_true, List.any_eq_true,
    decide_eq_true_eq] at margin
  obtain ⟨⟨range, known, within⟩, _⟩ := margin
  rw [Text.decimalValue?, Option.map_eq_none_iff, List.find?_eq_none]
  intro start zero digit
  have := apart start zero range known
  simp only [Bool.and_eq_true, decide_eq_true_eq] at digit
  omega

theorem digitValue?_ten (c : Char) :
    digitValue? 10 c = if 48 ≤ c.toNat ∧ c.toNat < 58 then some (c.toNat - 48) else none := by
  have order (left right : Char) : left ≤ right ↔ left.toNat ≤ right.toNat := Iff.rfl
  have codes : '0'.toNat = 48 ∧ '9'.toNat = 57 ∧ 'a'.toNat = 97 ∧ 'z'.toNat = 122 ∧
      'A'.toNat = 65 ∧ 'Z'.toNat = 90 := by decide
  simp only [digitValue?, order, codes]
  grind

/-- The digits of ASCII are the first of all scripts. -/
theorem decimalValue?_ascii {c : Char} (ascii : c.toNat < 128) :
    Text.decimalValue? c = digitValue? 10 c := by
  have later : ∀ start ∈ Text.zeros.tail, 128 ≤ start := by decide
  have others : Text.zeros.tail.find? (fun start =>
      start ≤ c.toNat && c.toNat < start + 10) = none := by
    rw [List.find?_eq_none]
    intro start member within
    have := later start member
    simp only [Bool.and_eq_true, decide_eq_true_eq] at within
    omega
  have first : Text.zeros = 48 :: Text.zeros.tail := rfl
  rw [digitValue?_ten, Text.decimalValue?, first, List.find?_cons, others]
  grind

@[simp] theorem digitValue?_space : digitValue? 10 ' ' = none := by decide

@[simp] theorem digitValue?_underscore (base : Nat) : digitValue? base '_' = none := by
  simp [digitValue?]

/-- In its plain form a character has the value that it has. -/
@[simp] theorem digitValue?_plainChar (c : Char) :
    digitValue? 10 (plainChar c) = Text.decimalValue? c := by
  have plain : ∀ value < 10, digitValue? 10 (Char.ofNat (48 + value)) = some value := by decide
  unfold plainChar
  split
  next ascii =>
    split
    next margin => rw [digitValue?_space, decimalValue?_of_isMargin margin]
    next => rw [decimalValue?_ascii ascii]
  next other =>
    split
    next margin => rw [digitValue?_space, decimalValue?_of_isMargin margin]
    next =>
      split
      next value digit => rw [digit, plain value (decimalValue?_lt digit)]
      next none => rw [none, digitValue?_ten, if_neg (by omega)]

/-- A character is a margin, or a digit, or in its plain form already. -/
theorem plainChar_cases (c : Char) :
    isMargin c = true ∧ plainChar c = ' ' ∨ isMargin c = false ∧
      (plainChar c = c ∨ ∃ value, Text.decimalValue? c = some value) := by
  unfold plainChar
  cases isMargin c with
  | true => simp
  | false => cases Text.decimalValue? c <;> simp

/-- A mark that is no digit is the plain form of itself only. -/
theorem plainChar_eq_iff {c mark : Char} (own : plainChar mark = mark) (visible : mark ≠ ' ')
    (noDigit : digitValue? 10 mark = none) : plainChar c = mark ↔ c = mark := by
  constructor
  · intro plain
    rcases plainChar_cases c with ⟨_, space⟩ | ⟨_, same | ⟨value, digit⟩⟩
    · exact absurd (plain.symm.trans space) visible
    · exact same.symm.trans plain
    · rw [← digitValue?_plainChar, plain, noDigit] at digit
      cases digit
  · intro same
    rw [same, own]

@[simp] theorem plainChar_eq_space (c : Char) : plainChar c = ' ' ↔ isMargin c = true := by
  constructor
  · intro plain
    rcases plainChar_cases c with ⟨margin, _⟩ | ⟨_, same | ⟨value, digit⟩⟩
    · exact margin
    · rw [← same, plain]
      decide
    · rw [← digitValue?_plainChar, plain, digitValue?_space] at digit
      cases digit
  · intro margin
    unfold plainChar
    rw [if_pos margin, if_pos margin, ite_self]

@[simp] theorem plainChar_underscore (c : Char) : plainChar c = '_' ↔ c = '_' :=
  plainChar_eq_iff (by decide) (by decide) (by decide)

@[simp] theorem plainChar_minus (c : Char) : plainChar c = '-' ↔ c = '-' :=
  plainChar_eq_iff (by decide) (by decide) (by decide)

@[simp] theorem plainChar_plus (c : Char) : plainChar c = '+' ↔ c = '+' :=
  plainChar_eq_iff (by decide) (by decide) (by decide)

/-! ## Digits -/

/-- Digits that follow a digit, each after an underscore or none, and their values. -/
inductive Following (value? : Char → Option Nat) : List Char → List Nat → Prop where
  | nil : Following value? [] []
  | next {c : Char} {value : Nat} {text : List Char} {values : List Nat}
      (digit : value? c = some value) (others : Following value? text values) :
      Following value? (c :: text) (value :: values)
  | separated {c : Char} {value : Nat} {text : List Char} {values : List Nat}
      (digit : value? c = some value) (others : Following value? text values) :
      Following value? ('_' :: c :: text) (value :: values)

/-- Digits with at most one underscore between two of them, and their values. -/
inductive Numeral (value? : Char → Option Nat) : List Char → List Nat → Prop where
  | start {c : Char} {value : Nat} {text : List Char} {values : List Nat}
      (digit : value? c = some value) (others : Following value? text values) :
      Numeral value? (c :: text) (value :: values)

/-- The number that has these digits behind those of a number. -/
def extend (base : Nat) (number : Nat) (values : List Nat) : Nat :=
  values.foldl (fun number value => number * base + value) number

section Digits

variable {base value count : Nat} {text : List Char} {total size : Nat}

/-- Further digits are read to the end exactly if there are only such. -/
theorem moreDigits_eq_some :
    moreDigits base value count text = some ⟨total, size, []⟩ ↔
      ∃ values, Following (digitValue? base) text values ∧ extend base value values = total ∧
        count + values.length = size := by
  have noDigit {digit : Nat} : digitValue? base '_' ≠ some digit := by
    rw [digitValue?_underscore]
    nofun
  fun_induction moreDigits base value count text with
  | case1 value count =>
      constructor
      · intro read
        cases read
        exact ⟨[], .nil, rfl, rfl⟩
      · rintro ⟨_, ⟨⟩, rfl, rfl⟩
        rfl
  | case2 value count c rest digit known ih =>
      refine ih.trans ?_
      constructor
      · rintro ⟨values, others, isTotal, isSize⟩
        exact ⟨digit :: values, .separated known others, isTotal, by simp; omega⟩
      · rintro ⟨_, given, isTotal, isSize⟩
        cases given with
        | next mark _ => exact absurd mark noDigit
        | separated same others =>
            cases known.symm.trans same
            exact ⟨_, others, isTotal, by simp at isSize; omega⟩
  | case3 value count c rest unknown =>
      constructor
      · nofun
      · rintro ⟨_, given, _⟩
        cases given with
        | next mark _ => exact absurd mark noDigit
        | separated known _ => cases unknown.symm.trans known
  | case4 value count c rest _ digit known ih =>
      refine ih.trans ?_
      constructor
      · rintro ⟨values, others, isTotal, isSize⟩
        exact ⟨digit :: values, .next known others, isTotal, by simp; omega⟩
      · rintro ⟨_, given, isTotal, isSize⟩
        cases given with
        | next same others =>
            cases known.symm.trans same
            exact ⟨_, others, isTotal, by simp at isSize; omega⟩
        | separated => exact absurd known noDigit
  | case5 value count c rest single unknown isMark =>
      constructor
      · nofun
      · rintro ⟨_, given, _⟩
        cases given with
        | next known _ => cases unknown.symm.trans known
        | separated => exact absurd rfl (single _ _ rfl)
  | case6 value count c rest _ unknown isMark =>
      constructor
      · nofun
      · rintro ⟨_, given, _⟩
        cases given with
        | next known _ => cases unknown.symm.trans known
        | separated => exact absurd rfl isMark

/-- A numeral is read to its end. -/
theorem digits?_eq_some :
    digits? base text = some ⟨total, size, []⟩ ↔
      ∃ values, Numeral (digitValue? base) text values ∧ extend base 0 values = total ∧
        values.length = size := by
  cases text with
  | nil =>
      constructor
      · nofun
      · rintro ⟨_, ⟨⟩, _⟩
  | cons c rest =>
      rw [digits?]
      cases known : digitValue? base c with
      | none =>
          constructor
          · nofun
          · rintro ⟨_, given, _⟩
            cases given with
            | start digit _ => cases known.symm.trans digit
      | some digit =>
          dsimp only
          rw [moreDigits_eq_some]
          constructor
          · rintro ⟨values, others, isTotal, isSize⟩
            refine ⟨digit :: values, .start known others, ?_, by simp; omega⟩
            simpa [extend] using isTotal
          · rintro ⟨_, given, isTotal, isSize⟩
            cases given with
            | start same others =>
                cases known.symm.trans same
                refine ⟨_, others, ?_, by simp at isSize; omega⟩
                simpa [extend] using isTotal

end Digits

/-! ## Plain characters and margins -/

@[simp] theorem following_map {text : List Char} {values : List Nat} :
    Following (digitValue? 10) (text.map plainChar) values ↔
      Following Text.decimalValue? text values := by
  constructor
  · intro given
    generalize mapped : text.map plainChar = plain at given
    induction given generalizing text with
    | nil =>
        rw [List.map_eq_nil_iff] at mapped
        subst mapped
        exact .nil
    | next digit _ ih =>
        obtain ⟨c, rest, rfl, rfl, rfl⟩ := List.map_eq_cons_iff.1 mapped
        rw [digitValue?_plainChar] at digit
        exact .next digit (ih rfl)
    | separated digit _ ih =>
        obtain ⟨mark, behind, rfl, isMark, others⟩ := List.map_eq_cons_iff.1 mapped
        obtain ⟨c, rest, rfl, rfl, rfl⟩ := List.map_eq_cons_iff.1 others
        rw [digitValue?_plainChar] at digit
        rw [plainChar_underscore] at isMark
        subst isMark
        exact .separated digit (ih rfl)
  · intro given
    induction given with
    | nil => exact .nil
    | next digit _ ih => exact .next ((digitValue?_plainChar _).trans digit) ih
    | separated digit _ ih => exact .separated ((digitValue?_plainChar _).trans digit) ih

@[simp] theorem numeral_map {text : List Char} {values : List Nat} :
    Numeral (digitValue? 10) (text.map plainChar) values ↔
      Numeral Text.decimalValue? text values := by
  constructor
  · intro given
    generalize mapped : text.map plainChar = plain at given
    obtain ⟨digit, others⟩ := given
    obtain ⟨c, rest, rfl, rfl, rfl⟩ := List.map_eq_cons_iff.1 mapped
    rw [digitValue?_plainChar] at digit
    exact .start digit (following_map.1 others)
  · intro given
    obtain ⟨digit, others⟩ := given
    exact .start ((digitValue?_plainChar _).trans digit) (following_map.2 others)

/-- A text without the margins around it. -/
def trimMargins (text : List Char) : List Char :=
  ((text.dropWhile isMargin).reverse.dropWhile isMargin).reverse

theorem plain_eq (text : String) : plain text = (trimMargins text.toList).map plainChar := by
  have spaces : (fun c => c == ' ') ∘ plainChar = isMargin := by
    funext c
    rw [Function.comp_apply, Bool.eq_iff_iff, beq_iff_eq, plainChar_eq_space]
  simp only [plain, trimMargins, List.dropWhile_map, ← List.map_reverse, spaces]

theorem exists_margins (text : List Char) :
    ∃ before after, (∀ c ∈ before, isMargin c = true) ∧ (∀ c ∈ after, isMargin c = true) ∧
      before ++ trimMargins text ++ after = text := by
  have taken (text : List Char) : ∀ c ∈ text.takeWhile isMargin, isMargin c = true :=
    List.all_eq_true.1 List.all_takeWhile
  refine ⟨text.takeWhile isMargin, ((text.dropWhile isMargin).reverse.takeWhile isMargin).reverse,
    taken text, fun c member => taken _ c (List.mem_reverse.1 member), ?_⟩
  rw [trimMargins, List.append_assoc, ← List.reverse_append, List.takeWhile_append_dropWhile,
    List.reverse_reverse, List.takeWhile_append_dropWhile]

/-- What begins and ends with something else is left when the margins are taken away. -/
theorem trimMargins_of {before core after : List Char} (front : ∀ c ∈ before, isMargin c = true)
    (back : ∀ c ∈ after, isMargin c = true)
    (first : ∃ c rest, core = c :: rest ∧ isMargin c = false)
    (last : ∃ rest c, core = rest ++ [c] ∧ isMargin c = false) :
    trimMargins (before ++ core ++ after) = core := by
  obtain ⟨c, rest, isFirst, visible⟩ := first
  obtain ⟨others, d, isLast, alsoVisible⟩ := last
  have started : (before ++ core ++ after).dropWhile isMargin = core ++ after := by
    rw [List.append_assoc, List.dropWhile_append_of_pos front, isFirst, List.cons_append,
      List.dropWhile_cons_of_neg (by simp [visible])]
  have ended : (core ++ after).reverse.dropWhile isMargin = core.reverse := by
    rw [List.reverse_append,
      List.dropWhile_append_of_pos fun c member => back c (List.mem_reverse.1 member), isLast,
      List.reverse_concat, List.dropWhile_cons_of_neg (by simp [alsoVisible])]
  rw [trimMargins, started, ended, List.reverse_reverse]

/-! ## Integers -/

/-- The sign of an integer, or none, and whether the integer is negative. -/
inductive Sign : List Char → Bool → Prop where
  | none : Sign [] false
  | plus : Sign ['+'] false
  | minus : Sign ['-'] true

/-- The texts of integers. -/
inductive IntegerText : List Char → Int → Prop where
  | intro {before sign digits after : List Char} {negative : Bool} {values : List Nat}
      (front : ∀ c ∈ before, isMargin c = true) (signed : Sign sign negative)
      (numeral : Numeral Text.decimalValue? digits values) (short : values.length ≤ maxDigits)
      (back : ∀ c ∈ after, isMargin c = true) :
      IntegerText (before ++ (sign ++ digits) ++ after)
        (Binary64.signed negative (extend 10 0 values))

section

variable {sign digits : List Char} {values : List Nat} {negative : Bool}

theorem isMargin_of_digit {c : Char} {value : Nat} (digit : Text.decimalValue? c = some value) :
    isMargin c = false := by
  cases margin : isMargin c with
  | true => cases (decimalValue?_of_isMargin margin).symm.trans digit
  | false => rfl

theorem exists_last_of_following (given : Following Text.decimalValue? digits values) :
    digits = [] ∨ ∃ rest c, digits = rest ++ [c] ∧ isMargin c = false := by
  induction given with
  | nil => exact .inl rfl
  | @next c _ text _ digit _ ih =>
      right
      rcases ih with rfl | ⟨rest, last, rfl, visible⟩
      · exact ⟨[], c, rfl, isMargin_of_digit digit⟩
      · exact ⟨c :: rest, last, rfl, visible⟩
  | @separated c _ text _ digit _ ih =>
      right
      rcases ih with rfl | ⟨rest, last, rfl, visible⟩
      · exact ⟨['_'], c, rfl, isMargin_of_digit digit⟩
      · exact ⟨'_' :: c :: rest, last, rfl, visible⟩

theorem exists_last_of_numeral (numeral : Numeral Text.decimalValue? digits values) :
    ∃ rest c, digits = rest ++ [c] ∧ isMargin c = false := by
  obtain ⟨digit, others⟩ := numeral
  rcases exists_last_of_following others with rfl | ⟨rest, last, rfl, visible⟩
  · exact ⟨[], _, rfl, isMargin_of_digit digit⟩
  · exact ⟨_ :: rest, last, rfl, visible⟩

theorem exists_first_of_numeral (signed : Sign sign negative)
    (numeral : Numeral Text.decimalValue? digits values) :
    ∃ c rest, sign ++ digits = c :: rest ∧ isMargin c = false := by
  cases signed with
  | none =>
      obtain ⟨digit, _⟩ := numeral
      exact ⟨_, _, rfl, isMargin_of_digit digit⟩
  | plus => exact ⟨_, _, rfl, by decide⟩
  | minus => exact ⟨_, _, rfl, by decide⟩

theorem exists_sign (text : List Char) :
    ∃ sign digits negative, sign ++ digits = text ∧ Sign sign negative ∧
      splitSign (text.map plainChar) = (negative, digits.map plainChar) := by
  cases text with
  | nil => exact ⟨[], [], false, rfl, .none, rfl⟩
  | cons c rest =>
      by_cases minus : c = '-'
      · subst minus
        exact ⟨['-'], rest, true, rfl, .minus, rfl⟩
      · by_cases plus : c = '+'
        · subst plus
          exact ⟨['+'], rest, false, rfl, .plus, rfl⟩
        · refine ⟨[], c :: rest, false, rfl, .none, ?_⟩
          rw [List.map_cons, splitSign]
          · exact fun _ same => minus ((plainChar_minus c).1 (List.cons.inj same).1)
          · exact fun _ same => plus ((plainChar_plus c).1 (List.cons.inj same).1)

theorem splitSign_of_numeral (signed : Sign sign negative)
    (numeral : Numeral Text.decimalValue? digits values) :
    splitSign ((sign ++ digits).map plainChar) = (negative, digits.map plainChar) := by
  cases signed with
  | plus => rfl
  | minus => rfl
  | none =>
      obtain ⟨digit, _⟩ := numeral
      rw [List.nil_append, List.map_cons, splitSign]
      · intro _ same
        rw [(plainChar_minus _).1 (List.cons.inj same).1] at digit
        exact absurd digit (by decide +revert)
      · intro _ same
        rw [(plainChar_plus _).1 (List.cons.inj same).1] at digit
        exact absurd digit (by decide +revert)

end

@[simp] theorem dropMark_ten (text : List Char) : dropMark 10 text = text := by
  unfold dropMark
  split
  next => simp [baseLetter?]
  next => rfl

/-- What the reader of integers does, without its faults. -/
theorem readInteger_ten {text : String} {integer : Int} :
    readInteger 10 text = .ok integer ↔ ∃ negative unsigned total size,
      splitSign (plain text) = (negative, unsigned) ∧
        digits? 10 unsigned = some ⟨total, size, []⟩ ∧ size ≤ maxDigits ∧
        Binary64.signed negative total = integer := by
  obtain ⟨⟨negative, unsigned⟩, split⟩ : ∃ parts, splitSign (plain text) = parts := ⟨_, rfl⟩
  have limited : isLimited 10 = true := rfl
  rw [readInteger, split]
  dsimp only
  simp only [dropMark_ten, limited, Bool.true_and, decide_eq_true_eq]
  constructor
  · intro success
    split at success
    next => cases success
    next number read =>
      split at success
      next => cases success
      next short =>
        split at success
        next ended =>
          cases success
          obtain ⟨total, size, rest⟩ := number
          obtain rfl := List.isEmpty_iff.1 ended
          exact ⟨negative, unsigned, total, size, rfl, read, Nat.not_lt.1 short, rfl⟩
        next => cases success
  · rintro ⟨_, _, total, size, ⟨⟩, read, short, rfl⟩
    rw [read]
    dsimp only
    rw [if_neg (Nat.not_lt.2 short), if_pos List.isEmpty_nil]

/-- The texts that are read as integers, and the integers that they are read as. -/
@[simp] theorem readInteger_eq_ok_iff {text : String} {integer : Int} :
    readInteger 10 text = .ok integer ↔ IntegerText text.toList integer := by
  rw [readInteger_ten]
  constructor
  · rintro ⟨negative, unsigned, total, size, split, read, short, rfl⟩
    obtain ⟨before, after, front, back, whole⟩ := exists_margins text.toList
    obtain ⟨sign, digits, found, parts, signed, signSplit⟩ := exists_sign (trimMargins text.toList)
    rw [plain_eq, signSplit] at split
    cases split
    obtain ⟨values, numeral, rfl, rfl⟩ := digits?_eq_some.1 read
    rw [← whole, ← parts]
    exact .intro front signed (numeral_map.1 numeral) short back
  · intro given
    generalize written : text.toList = characters at given
    obtain ⟨front, signed, numeral, short, back⟩ := given
    refine ⟨_, _, _, _, ?_, digits?_eq_some.2 ⟨_, numeral_map.2 numeral, rfl, rfl⟩, short, rfl⟩
    obtain ⟨rest, last, isLast, visible⟩ := exists_last_of_numeral numeral
    rw [plain_eq, written, trimMargins_of front back (exists_first_of_numeral signed numeral)
      ⟨_, last, by rw [isLast, ← List.append_assoc], visible⟩]
    exact splitSign_of_numeral signed numeral

/-! ## Numbers as they are written -/

theorem Following.append {value? : Char → Option Nat} {text : List Char} {values : List Nat}
    {c : Char} {value : Nat} (given : Following value? text values)
    (digit : value? c = some value) : Following value? (text ++ [c]) (values ++ [value]) := by
  induction given with
  | nil => exact .next digit .nil
  | next first _ ih => exact .next first ih
  | separated first _ ih => exact .separated first ih

theorem Numeral.append {value? : Char → Option Nat} {text : List Char} {values : List Nat}
    {c : Char} {value : Nat} (given : Numeral value? text values)
    (digit : value? c = some value) : Numeral value? (text ++ [c]) (values ++ [value]) := by
  obtain ⟨first, others⟩ := given
  exact .start first (others.append digit)

theorem decimalValue?_digitChar {value : Nat} (small : value < 10) :
    Text.decimalValue? (Nat.digitChar value) = some value := by
  decide +revert

/-- A number is a numeral where it is written without anything else. -/
theorem exists_numeral (number : Nat) :
    ∃ values, Numeral Text.decimalValue? (Nat.toDigits 10 number) values ∧
      extend 10 0 values = number ∧ values.length = (Nat.toDigits 10 number).length := by
  induction number using Nat.strongRecOn with
  | ind number ih =>
      rw [Nat.toDigits_eq_if (by decide)]
      split
      next small =>
        exact ⟨[number], .start (decimalValue?_digitChar small) .nil, by simp [extend], rfl⟩
      next large =>
        obtain ⟨values, numeral, total, length⟩ := ih (number / 10) (by omega)
        have digit : Text.decimalValue? (Nat.digitChar (number % 10)) = some (number % 10) :=
          decimalValue?_digitChar (by omega)
        refine ⟨values ++ [number % 10], numeral.append digit, ?_, by simp [length]⟩
        rw [extend] at total ⊢
        rw [List.foldl_append, total, List.foldl_cons, List.foldl_nil]
        omega

/-- A number that is not too long is the integer that it is written as. -/
theorem integerText_toDigits {number : Nat} (short : number < 10 ^ maxDigits) :
    IntegerText (Nat.toDigits 10 number) number := by
  obtain ⟨values, numeral, total, length⟩ := exists_numeral number
  have few : values.length ≤ maxDigits := by
    rw [length, Nat.length_toDigits_le_iff (by decide) (by decide)]
    exact short
  have given : IntegerText ([] ++ ([] ++ Nat.toDigits 10 number) ++ [])
      (Binary64.signed false (extend 10 0 values)) := .intro nofun .none numeral few nofun
  simpa [Binary64.signed, total] using given

end RouteTypes.Number
