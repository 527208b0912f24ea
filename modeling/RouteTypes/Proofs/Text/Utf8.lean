import RouteTypes.Text.Lines
import RouteTypes.Text.Utf8

/-!
# Reading UTF-8 back

The UTF-8 form of a text is read as this text (`decodeLossy_encode`), because the first character
of the form is read wherever it stands in front (`step_encode`). There is one lemma for each number
of bytes that a character has. A character is read from nothing but its form (`encode_of_step`), so
bytes are read as a text exactly if they are its form (`decode_eq_ok_iff`).
-/

namespace RouteTypes.Utf8

/-! ## One character -/

section

variable {lead second third fourth : UInt8}

@[simp] theorem isContinuation_iff :
    isContinuation second = true ↔ 128 ≤ second.toNat ∧ second.toNat < 192 := by
  simp [isContinuation, UInt8.le_iff_toNat_le, UInt8.lt_iff_toNat_lt]

@[simp] theorem secondAllowed_iff :
    secondAllowed lead second = true ↔ (128 ≤ second.toNat ∧ second.toNat < 192) ∧
      (lead.toNat = 224 → 160 ≤ second.toNat) ∧ (lead.toNat = 237 → second.toNat < 160) ∧
      (lead.toNat = 240 → 144 ≤ second.toNat) ∧ (lead.toNat = 244 → second.toNat < 144) := by
  simp only [secondAllowed, Bool.and_eq_true, Bool.or_eq_true, isContinuation_iff,
    UInt8.le_iff_toNat_le, UInt8.lt_iff_toNat_lt, bne_iff_ne, ne_eq, decide_eq_true_eq,
    ← UInt8.toNat_inj, UInt8.reduceToNat]
  omega

theorem step_one (ascii : lead.toNat < 128) (rest : Bytes) :
    step (lead :: rest) = .char (Char.ofNat lead.toNat) rest := by
  have small : lead < 128 := UInt8.lt_iff_toNat_lt.2 ascii
  simp only [step, small, if_true]

theorem step_two (low : 194 ≤ lead.toNat) (high : lead.toNat < 224)
    (continued : isContinuation second = true) (rest : Bytes) :
    step (lead :: second :: rest) =
      .char (Char.ofNat (lead.toNat % 32 * 64 + payload second)) rest := by
  simp only [step, UInt8.lt_iff_toNat_lt, UInt8.reduceToNat]
  rw [if_neg (by omega), if_neg (by omega), if_pos high, if_pos continued]

theorem step_three (low : 224 ≤ lead.toNat) (high : lead.toNat < 240)
    (allowed : secondAllowed lead second = true) (continued : isContinuation third = true)
    (rest : Bytes) :
    step (lead :: second :: third :: rest) = .char
      (Char.ofNat ((lead.toNat % 16 * 64 + payload second) * 64 + payload third)) rest := by
  simp only [step, UInt8.lt_iff_toNat_lt, UInt8.reduceToNat]
  rw [if_neg (by omega), if_neg (by omega), if_neg (by omega), if_pos high]
  simp [stepThree, allowed, continued]

theorem step_four (low : 240 ≤ lead.toNat) (high : lead.toNat < 245)
    (allowed : secondAllowed lead second = true) (continued : isContinuation third = true)
    (ended : isContinuation fourth = true) (rest : Bytes) :
    step (lead :: second :: third :: fourth :: rest) = .char
      (Char.ofNat (((lead.toNat % 8 * 64 + payload second) * 64 + payload third) * 64 +
        payload fourth)) rest := by
  simp only [step, UInt8.lt_iff_toNat_lt, UInt8.reduceToNat]
  rw [if_neg (by omega), if_neg (by omega), if_neg (by omega), if_neg (by omega), if_pos high]
  simp [stepFour, allowed, continued, ended]

end

/-- The code point of a character is no surrogate and not too large. -/
theorem valid_code (c : Char) :
    c.toNat < 55296 ∨ 57343 < c.toNat ∧ c.toNat < 1114112 := c.valid

/-- The character whose UTF-8 form stands in front is read. -/
@[simp] theorem step_encode (c : Char) (rest : Bytes) :
    step (String.utf8EncodeChar c ++ rest) = .char c rest := by
  have valid := valid_code c
  have byte (value : Nat) : (UInt8.ofNat value).toNat = value % 256 := UInt8.toNat_ofNat'
  have read {value : Nat} (same : value = c.toNat) :
      Step.char (Char.ofNat value) rest = .char c rest := by
    rw [same, Char.ofNat_toNat]
  have continued (value : Nat) : isContinuation (UInt8.ofNat (value % 64 + 128)) = true := by
    rw [isContinuation_iff, byte]
    omega
  unfold String.utf8EncodeChar
  rw [show c.val.toNat = c.toNat from rfl]
  dsimp only
  split
  next one =>
    rw [List.singleton_append, step_one (by rw [byte]; omega)]
    exact read (by rw [byte]; omega)
  next =>
    split
    next two =>
      rw [List.cons_append, List.singleton_append,
        step_two (by rw [byte]; omega) (by rw [byte]; omega) (continued _)]
      exact read (by simp only [payload, byte]; omega)
    next =>
      split
      next three =>
        have allowed : secondAllowed (UInt8.ofNat (c.toNat / 4096 % 16 + 224))
            (UInt8.ofNat (c.toNat / 64 % 64 + 128)) = true := by
          simp only [secondAllowed_iff, byte]
          omega
        rw [List.cons_append, List.cons_append, List.singleton_append,
          step_three (by rw [byte]; omega) (by rw [byte]; omega) allowed (continued _)]
        exact read (by simp only [payload, byte]; omega)
      next =>
        have allowed : secondAllowed (UInt8.ofNat (c.toNat / 262144 % 8 + 240))
            (UInt8.ofNat (c.toNat / 4096 % 64 + 128)) = true := by
          simp only [secondAllowed_iff, byte]
          omega
        rw [List.cons_append, List.cons_append, List.cons_append, List.singleton_append,
          step_four (by rw [byte]; omega) (by rw [byte]; omega) allowed (continued _)
            (continued _)]
        exact read (by simp only [payload, byte]; omega)

section

variable {lead second third fourth : UInt8}

theorem toNat_ofNat {code : Nat} (valid : code.isValidChar) : (Char.ofNat code).toNat = code := by
  rw [Char.ofNat, dif_pos valid]
  rfl

theorem ofNat_eq {value : Nat} {byte : UInt8} (same : value = byte.toNat) :
    UInt8.ofNat value = byte := by
  rw [same, UInt8.ofNat_toNat]

theorem encode_one (ascii : lead.toNat < 128) :
    String.utf8EncodeChar (Char.ofNat lead.toNat) = [lead] := by
  have code : (Char.ofNat lead.toNat).val.toNat = lead.toNat := toNat_ofNat (.inl (by omega))
  unfold String.utf8EncodeChar
  dsimp only
  rw [code, if_pos (by omega), ofNat_eq rfl]

theorem encode_two (low : 194 ≤ lead.toNat) (high : lead.toNat < 224)
    (continued : isContinuation second = true) :
    String.utf8EncodeChar (Char.ofNat (lead.toNat % 32 * 64 + payload second)) =
      [lead, second] := by
  rw [isContinuation_iff] at continued
  have code : (Char.ofNat (lead.toNat % 32 * 64 + payload second)).val.toNat =
      (lead.toNat - 192) * 64 + (second.toNat - 128) := by
    have value : lead.toNat % 32 * 64 + payload second =
        (lead.toNat - 192) * 64 + (second.toNat - 128) := by
      unfold payload
      omega
    rw [value]
    exact toNat_ofNat (.inl (by omega))
  unfold String.utf8EncodeChar
  dsimp only
  rw [code, if_neg (by omega), if_pos (by omega), @ofNat_eq _ lead (by omega),
    @ofNat_eq _ second (by omega)]

theorem encode_three (low : 224 ≤ lead.toNat) (high : lead.toNat < 240)
    (allowed : secondAllowed lead second = true) (continued : isContinuation third = true) :
    String.utf8EncodeChar
      (Char.ofNat ((lead.toNat % 16 * 64 + payload second) * 64 + payload third)) =
      [lead, second, third] := by
  rw [secondAllowed_iff] at allowed
  rw [isContinuation_iff] at continued
  have code : (Char.ofNat ((lead.toNat % 16 * 64 + payload second) * 64 +
      payload third)).val.toNat =
      ((lead.toNat - 224) * 64 + (second.toNat - 128)) * 64 + (third.toNat - 128) := by
    have value : (lead.toNat % 16 * 64 + payload second) * 64 + payload third =
        ((lead.toNat - 224) * 64 + (second.toNat - 128)) * 64 + (third.toNat - 128) := by
      unfold payload
      omega
    rw [value]
    refine toNat_ofNat ?_
    unfold Nat.isValidChar
    omega
  unfold String.utf8EncodeChar
  dsimp only
  rw [code, if_neg (by omega), if_neg (by omega), if_pos (by omega), @ofNat_eq _ lead (by omega),
    @ofNat_eq _ second (by omega), @ofNat_eq _ third (by omega)]

theorem encode_four (low : 240 ≤ lead.toNat) (high : lead.toNat < 245)
    (allowed : secondAllowed lead second = true) (continued : isContinuation third = true)
    (ended : isContinuation fourth = true) :
    String.utf8EncodeChar (Char.ofNat
      (((lead.toNat % 8 * 64 + payload second) * 64 + payload third) * 64 + payload fourth)) =
      [lead, second, third, fourth] := by
  rw [secondAllowed_iff] at allowed
  rw [isContinuation_iff] at continued ended
  have code : (Char.ofNat (((lead.toNat % 8 * 64 + payload second) * 64 + payload third) * 64 +
      payload fourth)).val.toNat = (((lead.toNat - 240) * 64 + (second.toNat - 128)) * 64 +
        (third.toNat - 128)) * 64 + (fourth.toNat - 128) := by
    have value : ((lead.toNat % 8 * 64 + payload second) * 64 + payload third) * 64 +
        payload fourth = (((lead.toNat - 240) * 64 + (second.toNat - 128)) * 64 +
          (third.toNat - 128)) * 64 + (fourth.toNat - 128) := by
      unfold payload
      omega
    rw [value]
    refine toNat_ofNat ?_
    unfold Nat.isValidChar
    omega
  unfold String.utf8EncodeChar
  dsimp only
  rw [code, if_neg (by omega), if_neg (by omega), if_neg (by omega), @ofNat_eq _ lead (by omega),
    @ofNat_eq _ second (by omega), @ofNat_eq _ third (by omega), @ofNat_eq _ fourth (by omega)]

end

section

variable {lead : UInt8} {bytes rest : Bytes} {c : Char}

theorem encode_of_stepThree (low : 224 ≤ lead.toNat) (high : lead.toNat < 240)
    (read : stepThree lead bytes = .char c rest) :
    String.utf8EncodeChar c ++ rest = lead :: bytes := by
  unfold stepThree at read
  split at read
  next => cases read
  next second others =>
    split at read
    next => cases read
    next allowed =>
      split at read
      next => cases read
      next third others =>
        split at read
        next continued =>
          cases read
          rw [encode_three low high (by simpa using allowed) continued]
          rfl
        next => cases read

theorem encode_of_stepFour (low : 240 ≤ lead.toNat) (high : lead.toNat < 245)
    (read : stepFour lead bytes = .char c rest) :
    String.utf8EncodeChar c ++ rest = lead :: bytes := by
  unfold stepFour at read
  split at read
  next => cases read
  next second others =>
    split at read
    next => cases read
    next allowed =>
      split at read
      next => cases read
      next third others =>
        split at read
        next => cases read
        next continued =>
          split at read
          next => cases read
          next fourth others =>
            split at read
            next ended =>
              cases read
              rw [encode_four low high (by simpa using allowed) (by simpa using continued) ended]
              rfl
            next => cases read

/-- A character that is read stands in front in its UTF-8 form. -/
theorem encode_of_step (read : step bytes = .char c rest) :
    String.utf8EncodeChar c ++ rest = bytes := by
  unfold step at read
  simp only [UInt8.lt_iff_toNat_lt, UInt8.reduceToNat] at read
  split at read
  next => cases read
  next lead others =>
    split at read
    next ascii =>
      cases read
      rw [encode_one ascii]
      rfl
    next =>
      split at read
      next => cases read
      next low =>
        split at read
        next high =>
          split at read
          next => cases read
          next second others =>
            split at read
            next continued =>
              cases read
              rw [encode_two (Nat.le_of_not_lt low) high continued]
              rfl
            next => cases read
        next two =>
          split at read
          next three => exact encode_of_stepThree (Nat.le_of_not_lt two) three read
          next three =>
            split at read
            next four => exact encode_of_stepFour (Nat.le_of_not_lt three) four read
            next => cases read

end

/-! ## Texts -/

@[simp] theorem encode_nil : encode [] = [] := rfl

@[simp] theorem encode_cons (c : Char) (text : List Char) :
    encode (c :: text) = String.utf8EncodeChar c ++ encode text := rfl

@[simp] theorem encode_append (before text : List Char) :
    encode (before ++ text) = encode before ++ encode text := by
  simp [encode]

@[simp] theorem encode_singleton (c : Char) : encode [c] = String.utf8EncodeChar c := by
  simp [encode]

/-- Characters of ASCII are one byte each. -/
theorem encode_ascii {c : Char} (ascii : c.toNat < 128) : encode [c] = [UInt8.ofNat c.toNat] := by
  rw [encode_singleton, String.utf8EncodeChar]
  exact if_pos (Nat.le_of_lt_succ ascii)

theorem encode_concat_ascii {c : Char} (ascii : c.toNat < 128) (before : List Char) :
    (encode (before ++ [c])).reverse = UInt8.ofNat c.toNat :: (encode before).reverse := by
  rw [encode_append, encode_ascii ascii, List.reverse_append]
  rfl

/-- Where there is a step for every byte of a text that has a character, there is one to read this
character, and one for every byte of the rest. -/
theorem exists_step_of_encode_cons {c : Char} {rest : List Char} {fuel : Nat}
    (enough : (encode (c :: rest)).length ≤ fuel) :
    ∃ left, fuel = left + 1 ∧ (encode rest).length ≤ left := by
  have some := List.length_pos_iff.2 (String.utf8EncodeChar_ne_nil (c := c))
  rw [encode_cons, List.length_append] at enough
  exact ⟨fuel - 1, by omega, by omega⟩

theorem decodeLossyFrom_encode (text : List Char) {fuel : Nat}
    (enough : (encode text).length ≤ fuel) : decodeLossyFrom fuel (encode text) = text := by
  induction text generalizing fuel with
  | nil => cases fuel <;> rfl
  | cons c rest ih =>
      obtain ⟨fuel, rfl, left⟩ := exists_step_of_encode_cons enough
      rw [decodeLossyFrom, encode_cons, step_encode]
      dsimp only
      rw [ih left]

/-- The UTF-8 form of a text is read as this text. -/
@[simp] theorem decodeLossy_encode (text : List Char) : decodeLossy (encode text) = text :=
  decodeLossyFrom_encode text (Nat.le_refl _)

/-! ## Bytes that are a text -/

/-- Reading is done only at the end. -/
theorem eq_nil_of_step {bytes : Bytes} (done : step bytes = .done) : bytes = [] := by
  cases bytes with
  | nil => rfl
  | cons lead others =>
      unfold step stepThree stepFour at done
      dsimp only at done
      repeat' split at done
      all_goals cases done

theorem decodeFrom_encode (text : List Char) {position fuel : Nat}
    (enough : (encode text).length ≤ fuel) :
    decodeFrom position fuel (encode text) = .ok text := by
  induction text generalizing position fuel with
  | nil => cases fuel <;> rfl
  | cons c rest ih =>
      obtain ⟨fuel, rfl, left⟩ := exists_step_of_encode_cons enough
      rw [decodeFrom, encode_cons, step_encode]
      dsimp only
      rw [ih left]
      rfl

/-- As long as there is a step for every byte, what is read is what the bytes are the form of. -/
theorem encode_of_decodeFrom {position fuel : Nat} {bytes : Bytes} {text : List Char}
    (enough : bytes.length ≤ fuel) (read : decodeFrom position fuel bytes = .ok text) :
    encode text = bytes := by
  induction fuel generalizing position bytes text with
  | zero =>
      cases read
      rw [List.length_eq_zero_iff.1 (Nat.le_zero.1 enough), encode_nil]
  | succ fuel ih =>
      rw [decodeFrom] at read
      split at read
      next ended =>
        cases read
        rw [eq_nil_of_step ended, encode_nil]
      next c rest found =>
        have front := encode_of_step found
        have some := List.length_pos_iff.2 (String.utf8EncodeChar_ne_nil (c := c))
        have shorter : rest.length < bytes.length := by
          rw [← front, List.length_append]
          omega
        cases later : decodeFrom (position + (bytes.length - rest.length)) fuel rest with
        | error fault =>
            rw [later] at read
            cases read
        | ok tail =>
            rw [later] at read
            cases read
            rw [encode_cons, ih (by omega) later, front]
      next => cases read

/-- Bytes are read as a text exactly if they are its UTF-8 form. -/
@[simp] theorem decode_eq_ok_iff {bytes : Bytes} {text : List Char} :
    decode bytes = .ok text ↔ encode text = bytes := by
  constructor
  · exact encode_of_decodeFrom (Nat.le_refl _)
  · rintro rfl
    exact decodeFrom_encode text (Nat.le_refl _)

/-- Bytes are no text exactly if they are the UTF-8 form of none. -/
theorem exists_decode_eq_error_iff {bytes : Bytes} :
    (∃ fault, decode bytes = .error fault) ↔ ∀ text, encode text ≠ bytes := by
  simp only [ne_eq, ← decode_eq_ok_iff]
  cases decode bytes with
  | error fault => simp
  | ok text => simp

end RouteTypes.Utf8

namespace RouteTypes.Text

/-- The bytes of a file are no text exactly if they are the form of none. -/
theorem exists_ofFile_eq_error_iff {content : Bytes} :
    (∃ fault, ofFile content = .error fault) ↔ ∀ text, Utf8.encode text ≠ content := by
  rw [← Utf8.exists_decode_eq_error_iff, ofFile]
  cases Utf8.decode content with
  | error fault => simp [bind, Except.bind]
  | ok text => simp [bind, Except.bind, pure, Except.pure]

end RouteTypes.Text
