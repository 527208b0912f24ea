import RouteTypes.Proofs.Json.Literal
import RouteTypes.Yaml.Cursor

/-!
# JSON texts that are YAML as well

A JSON text is divided into parts: white space, marks, strings, and words and numbers (`parts`).
Whether it is portable is decided part by part (`isPortable`): where YAML has another rule for a
part, the part must be written in a way that this rule leaves alone. What is left of a portable text
behind one of its parts is portable again, so a reader can follow the text from its front
(`portable_skipSpace`, `portable_string`, `portable_mark`, `portable_literal`).
-/

namespace RouteTypes.Json

/-! ## Parts -/

/-- A part of a text. A string is given as it is written, without its quotes. -/
inductive Part where
  | space (c : Char)
  | mark (c : Char)
  | string (raw : List Char)
  | word (chars : List Char)
  deriving DecidableEq

/-- The characters of a string, behind its opening quote, and what follows its closing quote. -/
def splitString : List Char → List Char × List Char
  | [] => ([], [])
  | '"' :: rest => ([], rest)
  | '\\' :: c :: rest => ('\\' :: c :: (splitString rest).1, (splitString rest).2)
  | c :: rest => (c :: (splitString rest).1, (splitString rest).2)

/-- The marks of lists and mappings. -/
def isMark (c : Char) : Bool :=
  "[]\x7b\x7d,:".toList.contains c

/-- The characters that belong to no word or number. -/
def delimiters : List Char :=
  [' ', '\t', '\n', '\r', '[', ']', '\x7b', '\x7d', ',', ':', '"']

/-- A character of a word or number. -/
def isWordChar (c : Char) : Bool :=
  !delimiters.contains c

/-- Divides a text into its parts. Each part takes a character, so `fuel` lasts when it is the
length of the text. -/
def partsWithin : Nat → List Char → List Part
  | 0, _ => []
  | _ + 1, [] => []
  | fuel + 1, c :: rest =>
    if c == '"' then .string (splitString rest).1 :: partsWithin fuel (splitString rest).2
    else if isSpace c then .space c :: partsWithin fuel rest
    else if isMark c then .mark c :: partsWithin fuel rest
    else .word (c :: rest.takeWhile isWordChar) :: partsWithin fuel (rest.dropWhile isWordChar)

/-- The parts of a text. -/
def parts (text : List Char) : List Part :=
  partsWithin text.length text

/-! ## Portable parts -/

/-- The digits of an escape belong to the first half of a character, and the second one follows. -/
def joins (digits : List Char) : Bool :=
  match hexFour? digits with
  | some (high, '\\' :: 'u' :: more) =>
    isHighHalf high && (hexFour? more).any fun low => isLowHalf low.1
  | _ => false

/-- A text begins with the mark of the start or end of a document. -/
def startsSeparator : List Char → Bool
  | a :: b :: c :: d :: _ =>
    (a == '-' || a == '.') && b == a && c == a && Yaml.isBlankOrEnd d
  | _ => false

/-- A string without escapes that are joined, and whose line ends, which are written as such, are
kept: those of Unicode, neither beside a space nor in front of the mark of a document. -/
def isPortableString : List Char → Bool
  | [] => true
  | '\\' :: c :: rest => !(c == 'u' && joins rest) && isPortableString rest
  | c :: rest =>
    (if c == ' ' then !rest.head?.any Yaml.isBreak
      else if Yaml.isBreak c then
        c != '\u0085' && rest.head? != some ' ' && !startsSeparator rest
      else true) &&
    isPortableString rest

/-- A number, behind its sign, without an exponent, or with a point and an exponent that has a
sign. -/
def isPortableNumber (unsigned : List Char) : Bool :=
  match unsigned.dropWhile isDigit with
  | [] => true
  | '.' :: fraction =>
    match fraction.dropWhile isDigit with
    | [] => true
    | _ :: sign :: _ => sign == '+' || sign == '-'
    | [_] => false
  | _ => false

/-- A word or number that is none of those that stand for no finite number. -/
def isPortableWord : List Char → Bool
  | '-' :: unsigned => isPortableNumber unsigned
  | word => ["null", "true", "false"].any (·.toList == word) || isPortableNumber word

/-- The white space at the front of some parts. -/
def leadingSpace : List Part → List Char
  | .space c :: rest => c :: leadingSpace rest
  | _ => []

/-- A colon follows, behind white space or none. -/
def beforeColon (rest : List Part) : Bool :=
  (rest.drop (leadingSpace rest).length).head? == some (.mark ':')

/-- A string with so much space behind it is short enough for a key of YAML, and on one line. -/
def fitsKey (raw gap : List Char) : Bool :=
  raw.length + gap.length + 2 ≤ 1024 && (raw ++ gap).all (!Yaml.isBreak ·)

/-- Every part stands for the same in YAML, and the names of objects may be keys there. -/
def arePortable : List Part → Bool
  | [] => true
  | .space c :: rest => c != '\t' && arePortable rest
  | .mark _ :: rest => arePortable rest
  | .string raw :: rest =>
    isPortableString raw && (!beforeColon rest || fitsKey raw (leadingSpace rest)) &&
      arePortable rest
  | .word chars :: rest => isPortableWord chars && arePortable rest

/-- A text without characters that YAML does not allow, all parts of which stand for the same
there. -/
def isPortable (text : List Char) : Bool :=
  text.all Yaml.isAllowed && arePortable (parts text)

/-! ## From part to part -/

variable {c : Char} {text rest : List Char}

theorem length_splitString (text : List Char) :
    (splitString text).1.length + (splitString text).2.length ≤ text.length := by
  fun_induction splitString text with
  | case1 => simp
  | case2 => simp
  | case3 c rest ih =>
      simp only [List.length_cons]
      omega
  | case4 c rest _ _ ih =>
      simp only [List.length_cons]
      omega

theorem partsWithin_eq {fuel : Nat} (enough : text.length ≤ fuel) :
    partsWithin fuel text = parts text := by
  induction fuel using Nat.strongRecOn generalizing text with
  | ind fuel ih =>
      cases text with
      | nil => cases fuel <;> rfl
      | cons c rest =>
          obtain ⟨fuel, rfl⟩ := Nat.exists_eq_add_one_of_ne_zero
            (Nat.ne_zero_of_lt (Nat.lt_of_lt_of_le (Nat.zero_lt_succ _) enough))
          have shorter : rest.length ≤ fuel := Nat.le_of_succ_le_succ enough
          have behind (left : List Char) (less : left.length ≤ rest.length) :
              partsWithin fuel left = partsWithin rest.length left := by
            rw [ih fuel (Nat.lt_succ_self _) (Nat.le_trans less shorter)]
            by_cases same : rest.length = fuel
            · rw [same, ih fuel (Nat.lt_succ_self _) (Nat.le_trans less shorter)]
            · exact (ih rest.length (by omega) less).symm
          have string := length_splitString rest
          rw [parts, List.length_cons, partsWithin, partsWithin, behind rest (Nat.le_refl _),
            behind _ (List.dropWhile_suffix _).length_le, behind (splitString rest).2 (by omega)]

@[simp] theorem parts_string (rest : List Char) :
    parts ('"' :: rest) = .string (splitString rest).1 :: parts (splitString rest).2 := by
  have shorter := length_splitString rest
  rw [parts, List.length_cons, partsWithin, if_pos (by decide), partsWithin_eq (by omega)]

@[simp] theorem parts_space (space : isSpace c) (rest : List Char) :
    parts (c :: rest) = .space c :: parts rest := by
  have notQuote : c ≠ '"' := by
    rintro rfl
    exact absurd space (by decide)
  rw [parts, List.length_cons, partsWithin, if_neg (by simpa using notQuote), if_pos space]
  rfl

@[simp] theorem parts_mark (mark : isMark c) (rest : List Char) :
    parts (c :: rest) = .mark c :: parts rest := by
  have notQuote : c ≠ '"' := by
    rintro rfl
    exact absurd mark (by decide)
  have notSpace : isSpace c = false := by
    simp only [isMark, List.contains_iff_mem] at mark
    exact (by decide : ∀ c ∈ "[]\x7b\x7d,:".toList, isSpace c = false) c mark
  rw [parts, List.length_cons, partsWithin, if_neg (by simpa using notQuote), notSpace,
    if_neg Bool.false_ne_true, if_pos mark]
  rfl

theorem takeWhile_append_of_head {α : Type} {test : α → Bool} {front behind : List α}
    (all : ∀ item ∈ front, test item) (stops : ∀ item ∈ behind.head?, test item = false) :
    (front ++ behind).takeWhile test = front ∧ (front ++ behind).dropWhile test = behind := by
  rw [List.takeWhile_append_of_pos all, List.dropWhile_append_of_pos all]
  cases behind with
  | nil => simp
  | cons item later => simp [stops item rfl]

theorem parts_word (chars : ∀ other ∈ c :: text, isWordChar other)
    (stops : ∀ other ∈ rest.head?, isWordChar other = false) :
    parts (c :: text ++ rest) = .word (c :: text) :: parts rest := by
  rw [List.forall_mem_cons] at chars
  obtain ⟨first, chars⟩ := chars
  simp only [isWordChar, delimiters, List.contains_eq_mem, Bool.not_eq_true',
    decide_eq_false_iff_not, List.mem_cons, List.not_mem_nil, or_false, not_or] at first
  have notQuote : (c == '"') = false := by simp [first]
  have notSpace : isSpace c = false := by simp [isSpace, first]
  have notMark : isMark c = false := by simp [isMark, first]
  obtain ⟨taken, left⟩ := takeWhile_append_of_head chars stops
  rw [parts, List.cons_append, List.length_cons, partsWithin, notQuote, notSpace, notMark,
    if_neg Bool.false_ne_true, if_neg Bool.false_ne_true, if_neg Bool.false_ne_true, taken, left,
    partsWithin_eq (by simp)]

/-! ## What is left of a portable text -/

/-- White space that is the same in YAML. -/
def IsGap (gap : List Char) : Prop :=
  ∀ c ∈ gap, c = ' ' ∨ c = '\n' ∨ c = '\r'

/-- What is left of a text is portable. -/
def Portable (text : List Char) : Prop :=
  arePortable (parts text) = true

theorem portable_space (space : isSpace c) :
    Portable (c :: rest) ↔ (c = ' ' ∨ c = '\n' ∨ c = '\r') ∧ Portable rest := by
  have known : c = ' ' ∨ c = '\t' ∨ c = '\n' ∨ c = '\r' := by
    simpa [isSpace, or_assoc] using space
  rw [Portable, parts_space space, arePortable, Bool.and_eq_true, Portable]
  refine and_congr_left fun _ => ?_
  rcases known with rfl | rfl | rfl | rfl <;> decide

theorem portable_mark (mark : isMark c) : Portable (c :: rest) ↔ Portable rest := by
  rw [Portable, parts_mark mark, arePortable, Portable]

theorem portable_skipSpace (portable : Portable text) :
    Portable (skipSpace text) ∧ ∃ gap, IsGap gap ∧ text = gap ++ skipSpace text := by
  induction text with
  | nil => exact ⟨portable, [], nofun, rfl⟩
  | cons c rest ih =>
      by_cases space : isSpace c
      · obtain ⟨plain, portable⟩ := (portable_space space).1 portable
        obtain ⟨left, gap, isGap, same⟩ := ih portable
        rw [skipSpace_cons space]
        refine ⟨left, c :: gap, ?_, ?_⟩
        · exact List.forall_mem_cons.2 ⟨plain, isGap⟩
        · rw [List.cons_append, ← same]
      · have kept : skipSpace (c :: rest) = c :: rest := by simp [skipSpace, space]
        rw [kept]
        exact ⟨portable, [], nofun, rfl⟩

/-- What stands behind white space and a mark is portable. -/
theorem portable_behind (portable : Portable text) (found : skipSpace text = c :: rest)
    (mark : isMark c) : Portable rest := by
  have left := (portable_skipSpace portable).1
  rw [found] at left
  exact (portable_mark mark).1 left

theorem portable_string (portable : Portable ('"' :: rest)) :
    isPortableString (splitString rest).1 ∧ Portable (splitString rest).2 := by
  rw [Portable, parts_string, arePortable, Bool.and_eq_true, Bool.and_eq_true] at portable
  exact ⟨portable.1.1, portable.2⟩

@[simp] theorem leadingSpace_gap {gap : List Char} (c : Char) (others : List Part) :
    leadingSpace (gap.map .space ++ .mark c :: others) = gap := by
  induction gap with
  | nil => rfl
  | cons first gap ih => simp [leadingSpace, ih]

theorem parts_gap {gap : List Char} (isGap : IsGap gap) (rest : List Char) :
    parts (gap ++ rest) = gap.map .space ++ parts rest := by
  induction gap with
  | nil => rfl
  | cons c gap ih =>
      have known := isGap c List.mem_cons_self
      have space : isSpace c := by rcases known with rfl | rfl | rfl <;> rfl
      rw [List.cons_append, parts_space space, List.map_cons, List.cons_append,
        ih fun other member => isGap other (List.mem_cons_of_mem _ member)]

/-- A name of an object may be a key. -/
theorem portable_name {gap after : List Char} (portable : Portable ('"' :: rest))
    (isGap : IsGap gap) (colon : (splitString rest).2 = gap ++ ':' :: after) :
    fitsKey (splitString rest).1 gap := by
  have behind : parts (splitString rest).2 = gap.map .space ++ .mark ':' :: parts after := by
    rw [colon, parts_gap isGap, parts_mark rfl]
  rw [Portable, parts_string, arePortable, Bool.and_eq_true, Bool.and_eq_true, Bool.or_eq_true]
    at portable
  obtain ⟨⟨_, key⟩, _⟩ := portable
  rw [behind, leadingSpace_gap] at key
  refine key.resolve_left ?_
  simp [beforeColon, leadingSpace_gap]

/-- A number that is portable is an integer, or has digits behind its point and a sign in its
exponent. -/
theorem portable_numeral {numeral : Numeral} (portable : isPortableNumber numeral.unsigned) :
    numeral.fraction = [] ∧ numeral.exponent = none ∨
      numeral.fraction ≠ [] ∧ ∀ exponent ∈ numeral.exponent, exponent.sign ≠ [] := by
  have exponentStops : ∀ c ∈ numeral.exponentText.head?, isDigit c = false := by
    intro c first
    unfold Numeral.exponentText at first
    split at first
    next exponent _ =>
      cases first
      rcases exponent.isMark with same | same <;> rw [same] <;> rfl
    next => cases first
  by_cases none : numeral.fraction = []
  · have unsigned : numeral.unsigned = numeral.whole ++ numeral.exponentText := by
      simp [Numeral.unsigned, Numeral.fractionText, none]
    refine .inl ⟨none, ?_⟩
    rw [isPortableNumber, unsigned,
      (takeWhile_append_of_head numeral.wholeDigits exponentStops).2] at portable
    cases isExponent : numeral.exponent with
    | none => rfl
    | some exponent =>
        have notPoint : exponent.mark ≠ '.' := by
          rcases exponent.isMark with same | same <;> rw [same] <;> decide
        simp [Numeral.exponentText, isExponent, Exponent.text, notPoint] at portable
  · have unsigned : numeral.unsigned =
        numeral.whole ++ '.' :: (numeral.fraction ++ numeral.exponentText) := by
      simp [Numeral.unsigned, Numeral.fractionText, none]
    have pointStops : ∀ c ∈ ('.' :: (numeral.fraction ++ numeral.exponentText)).head?,
        isDigit c = false := by
      intro c first
      cases first
      rfl
    refine .inr ⟨none, ?_⟩
    intro exponent isExponent unsignedPower
    obtain ⟨c, later, digits⟩ := List.exists_cons_of_ne_nil exponent.nonempty
    have digit := exponent.areDigits c (digits ▸ List.mem_cons_self)
    have plus : c ≠ '+' := ne_of_isDigit digit (by decide)
    have minus : c ≠ '-' := ne_of_isDigit digit (by decide)
    have isText : numeral.exponentText = exponent.mark :: c :: later := by
      rw [Numeral.exponentText, isExponent]
      simp [Exponent.text, unsignedPower, digits]
    rw [isPortableNumber, unsigned, (takeWhile_append_of_head numeral.wholeDigits pointStops).2]
      at portable
    simp only [(takeWhile_append_of_head numeral.fractionDigits exponentStops).2] at portable
    simp [isText, plus, minus] at portable

/-- None of some words consists of the characters of numbers. -/
theorem any_word_eq_false {words : List String}
    (foreign : ∀ word ∈ words, ¬∀ c ∈ word.toList, c ∈ numberChars)
    (chars : ∀ c ∈ text, c ∈ numberChars) : words.any (·.toList == text) = false := by
  rw [List.any_eq_false]
  intro word member same
  rw [← eq_of_beq same] at chars
  exact foreign word member chars

@[simp] theorem isPortableWord_numeral (numeral : Numeral) :
    isPortableWord numeral.text = isPortableNumber numeral.unsigned := by
  obtain ⟨c, later, whole, digit⟩ := numeral.exists_digit
  unfold Numeral.text withSign
  split
  next => rfl
  next =>
    have minus : c ≠ '-' := ne_of_isDigit digit (by decide)
    have foreign : ["null", "true", "false"].any (·.toList == numeral.unsigned) = false :=
      any_word_eq_false (by decide) numeral.chars
    rw [isPortableWord, foreign, Bool.false_or]
    rw [Numeral.unsigned, whole]
    exact fun _ same => minus (List.cons.inj same).1

theorem portable_literal {literal : List Char} {scalar : Scalar}
    (isLiteral : Literal literal scalar) (stops : ∀ other ∈ rest.head?, isWordChar other = false)
    (portable : Portable (literal ++ rest)) : isPortableWord literal ∧ Portable rest := by
  have wordChars : ∀ c ∈ literalChars, isWordChar c := by decide
  have chars : ∀ c ∈ literal, isWordChar c := fun c member =>
    wordChars c (isLiteral.chars c member)
  obtain ⟨c, later, _, starts⟩ := isLiteral.starts
  rcases starts with rfl | rfl
  · rwa [Portable, parts_word chars stops, arePortable, Bool.and_eq_true] at portable
  · rwa [Portable, parts_word chars stops, arePortable, Bool.and_eq_true] at portable

end RouteTypes.Json
