import RouteTypes.Proofs.Text.Utf8
import RouteTypes.Text.Percent

/-!
# Reading percent-encoded text back

In a percent-encoded form of a text some characters stand for themselves and the others are
written byte by byte. Whichever they are, as long as no percent sign stands for itself, decoding
the form gives the text (`percentDecode_of_form`).
-/

namespace RouteTypes.Text

/-- The character is a hexadecimal digit of the value, in upper or in lower case. -/
def IsHexDigit (value : Nat) (digit : Char) : Prop :=
  digit = upperHexDigit value ∨ digit = Utf8.hexDigit value

/-- The characters are percent-encoded forms of the bytes. -/
inductive ByteForms : Bytes → List Char → Prop where
  | nil : ByteForms [] []
  | cons {byte : UInt8} {bytes : Bytes} {high low : Char} {forms : List Char}
      (upper : IsHexDigit (byte.toNat / 16) high) (lower : IsHexDigit (byte.toNat % 16) low)
      (others : ByteForms bytes forms) : ByteForms (byte :: bytes) ('%' :: high :: low :: forms)

/-- The second text is a percent-encoded form of the first one. Every percent sign of the text is
encoded; of the other characters any may be, and each occurrence on its own. -/
inductive PercentForm : List Char → List Char → Prop where
  | nil : PercentForm [] []
  | kept {c : Char} {text form : List Char} (plain : c ≠ '%') (others : PercentForm text form) :
      PercentForm (c :: text) (c :: form)
  | encoded {c : Char} {text forms form : List Char}
      (bytes : ByteForms (String.utf8EncodeChar c) forms) (others : PercentForm text form) :
      PercentForm (c :: text) (forms ++ form)

theorem digitValue?_of_isHexDigit {value : Nat} {digit : Char} (small : value < 16)
    (isDigit : IsHexDigit value digit) : Number.digitValue? 16 digit = some value := by
  rcases isDigit with rfl | rfl <;> decide +revert

theorem hexPair?_of_digits {byte : UInt8} {high low : Char}
    (upper : IsHexDigit (byte.toNat / 16) high) (lower : IsHexDigit (byte.toNat % 16) low) :
    hexPair? high low = some byte := by
  have bound := UInt8.toNat_lt byte
  have whole : UInt8.ofNat (byte.toNat / 16 * 16 + byte.toNat % 16) = byte := by
    rw [Nat.div_add_mod', UInt8.ofNat_toNat]
  simp only [hexPair?, digitValue?_of_isHexDigit (by omega) upper,
    digitValue?_of_isHexDigit (by omega) lower, Option.bind_eq_bind, Option.bind_some, whole]
  rfl

theorem percentDecodeAfter_byteForms {bytes run : Bytes} {forms : List Char}
    (encoded : ByteForms bytes forms) (rest : List Char) :
    percentDecodeAfter run (forms ++ rest) = percentDecodeAfter (bytes.reverse ++ run) rest := by
  induction encoded generalizing run with
  | nil => rfl
  | cons upper lower _ ih =>
      rw [List.cons_append, List.cons_append, List.cons_append, percentDecodeAfter,
        hexPair?_of_digits upper lower]
      dsimp only
      rw [ih, List.reverse_cons, List.append_assoc, List.singleton_append]

/-- Any character but a percent sign stands for itself. -/
theorem percentDecodeAfter_kept {c : Char} (plain : c ≠ '%') (run : Bytes) (rest : List Char) :
    percentDecodeAfter run (c :: rest) =
      if c.toNat < 128 then percentDecodeAfter (UInt8.ofNat c.toNat :: run) rest
      else Utf8.decodeLossy run.reverse ++ c :: percentDecodeAfter [] rest := by
  rw [percentDecodeAfter]
  exact fun _ _ _ isPercent _ => plain isPercent

/-- Decoding goes on after the bytes of characters that were read already. -/
theorem percentDecodeAfter_of_form {text form : List Char} (encoded : PercentForm text form)
    (before : List Char) :
    percentDecodeAfter (Utf8.encode before).reverse form = before ++ text := by
  induction encoded generalizing before with
  | nil => rw [percentDecodeAfter, List.reverse_reverse, Utf8.decodeLossy_encode, List.append_nil]
  | @kept c text form plain _ ih =>
      rw [percentDecodeAfter_kept plain]
      split
      next ascii =>
        rw [← Utf8.encode_concat_ascii ascii, ih, List.append_assoc, List.singleton_append]
      next =>
        have later := ih []
        rw [Utf8.encode_nil, List.reverse_nil, List.nil_append] at later
        rw [List.reverse_reverse, Utf8.decodeLossy_encode, later]
  | @encoded c text forms form bytes _ ih =>
      have run : (String.utf8EncodeChar c).reverse ++ (Utf8.encode before).reverse =
          (Utf8.encode (before ++ [c])).reverse := by
        rw [Utf8.encode_append, Utf8.encode_singleton, List.reverse_append]
      rw [percentDecodeAfter_byteForms bytes, run, ih, List.append_assoc, List.singleton_append]

/-- A percent-encoded form of a text is decoded to this text. -/
@[simp] theorem percentDecode_of_form {text form : String}
    (encoded : PercentForm text.toList form.toList) : percentDecode form = text := by
  rw [percentDecode]
  exact (congrArg String.ofList (percentDecodeAfter_of_form encoded [])).trans
    String.ofList_toList

theorem byteForms_percentByte (bytes : Bytes) : ByteForms bytes (bytes.flatMap percentByte) := by
  induction bytes with
  | nil => exact .nil
  | cons byte rest ih => exact .cons (.inl rfl) (.inl rfl) ih

/-- Encoding all characters but some, to which the percent sign does not belong, gives a
percent-encoded form. -/
theorem percentForm_percentEncode {kept : Char → Bool} (signs : kept '%' = false)
    (text : List Char) : PercentForm text (percentEncode kept text) := by
  induction text with
  | nil => exact .nil
  | cons c rest ih =>
      rw [percentEncode, List.flatMap_cons]
      split
      next isKept =>
        refine .kept ?_ ih
        intro isPercent
        rw [isPercent, signs] at isKept
        cases isKept
      next => exact .encoded (byteForms_percentByte _) ih

end RouteTypes.Text
