import Mathlib.Data.List.TakeWhile
import RouteTypes.Url

/-!
# The parts of an address

A text is cut at the first occurrence of a mark, or nowhere (`cut_append`, `cut_of_notMem`). So the
scheme of an address is what stands in front of its first colon (`splitScheme_append`). The reader
drops some characters before (`cleaned`). Only what stands in the place of an authority can be wrong
with an address (`exists_ofString_eq_error_iff`).
-/

namespace RouteTypes

namespace Text

variable {mark : Char} {front text : List Char}

/-- A text without the mark is not cut. -/
theorem cut_of_notMem (missing : mark ∉ text) : cut mark text = (text, none) := by
  have nothing : text.dropWhile (· != mark) = [] := by
    rw [List.dropWhile_eq_nil_iff]
    intro c member
    rw [bne_iff_ne]
    exact fun same => missing (same ▸ member)
  rw [cut, nothing]

/-- A text is cut at the first occurrence of the mark. -/
@[simp] theorem cut_append (missing : mark ∉ front) (rest : List Char) :
    cut mark (front ++ mark :: rest) = (front, some rest) := by
  have others : ∀ c ∈ front, (c != mark) = true := by
    intro c member
    rw [bne_iff_ne]
    exact fun same => missing (same ▸ member)
  have dropped : (front ++ mark :: rest).dropWhile (· != mark) = mark :: rest := by
    rw [List.dropWhile_append_of_pos others, List.dropWhile_cons_of_neg (by simp)]
  have taken : (front ++ mark :: rest).takeWhile (· != mark) = front := by
    rw [List.takeWhile_append_of_pos others, List.takeWhile_cons_of_neg (by simp), List.append_nil]
  rw [cut, dropped, taken]

end Text

namespace Url

variable {text scheme rest : List Char}

/-- The characters of an address that are read. -/
def cleaned (text : String) : List Char :=
  (text.toList.dropWhile isLeading).filter (!isDropped ·)

/-- A character of a class without tabs and line ends is read. -/
theorem isDropped_of_class {isMember : Char → Bool} {c : Char} (member : isMember c = true)
    (others : ['\t', '\r', '\n'].any isMember = false) : isDropped c = false := by
  have other (dropped : Char) (inside : dropped ∈ ['\t', '\r', '\n']) : (c == dropped) = false := by
    rw [beq_eq_false_iff_ne]
    rintro rfl
    exact List.any_eq_false.1 others c inside member
  rw [isDropped, other '\t' (by decide), other '\r' (by decide), other '\n' (by decide)]
  rfl

theorem isLeading_of_isAlpha {c : Char} (letter : c.isAlpha = true) : isLeading c = false := by
  rw [isLeading, decide_eq_false_iff_not]
  intro control
  have codes : 'A'.val.toNat = 65 ∧ 'a'.val.toNat = 97 := by decide
  have same : c.val.toNat = c.toNat := rfl
  delta Char.isAlpha Char.isUpper Char.isLower at letter
  simp only [Bool.or_eq_true, Bool.and_eq_true, decide_eq_true_eq, UInt32.le_iff_toNat_le,
    ge_iff_le] at letter
  omega

/-- A text whose front is read as it is. -/
theorem cleaned_of_append {text : String} {first : Char} {others : List Char}
    (isText : text.toList = first :: others ++ rest) (starts : isLeading first = false)
    (kept : (first :: others).any isDropped = false) :
    cleaned text = first :: others ++ rest.filter (!isDropped ·) := by
  have front : (first :: others).filter (!isDropped ·) = first :: others := by
    rw [List.filter_eq_self]
    intro c member
    rw [Bool.not_eq_true', ← Bool.not_eq_true]
    exact List.any_eq_false.1 kept c member
  rw [cleaned, isText, List.cons_append, List.dropWhile_cons_of_neg (by simp [starts]),
    ← List.cons_append, List.filter_append, front]

/-- The characters can stand in front of a colon as a scheme. -/
structure IsScheme (name : List Char) : Prop where
  letter : ∃ first others, name = first :: others ∧ first.isAlpha = true
  chars : name.all isSchemeChar = true

/-- What stands in front of the first colon is the scheme. -/
@[simp] theorem splitScheme_append (isScheme : IsScheme scheme) (rest : List Char) :
    splitScheme (scheme ++ ':' :: rest) = (some (scheme.map Char.toLower), rest) := by
  have noColon : ':' ∉ scheme := by
    intro member
    exact absurd (List.all_eq_true.1 isScheme.chars ':' member) (by decide)
  have cut := Text.cut_append noColon rest
  have chars := isScheme.chars
  obtain ⟨first, others, rfl, letter⟩ := isScheme.letter
  rw [List.cons_append] at cut ⊢
  unfold splitScheme
  rw [cut]
  dsimp only
  rw [letter, chars]
  rfl

/-! ## Texts that are no addresses -/

/-- What stands in the place of an authority. -/
def authorityOf (text : String) : List Char :=
  (splitAuthority (splitScheme (cleaned text)).2).1

/-- What stands between the first brackets of an authority. -/
def bracketed (authority : List Char) : List Char :=
  (Text.cut ']' ((Text.cut '[' authority).2.getD [])).1

/-- A host that may stand in brackets. -/
inductive IsBracketedHost (host : List Char) : Prop where
  | future (marked : host.head? = some 'v') (isFuture : isFutureAddress host = true)
  | address (unmarked : host.head? ≠ some 'v') (new : isOldAddress host = false)
      (isAddress : isAddress host = true)

/-- No address has such an authority: a bracket stands alone, there is no host between the brackets,
or a character passes for a mark of addresses. -/
inductive Spoils (authority : List Char) : Prop where
  | single (alone : ¬('[' ∈ authority ↔ ']' ∈ authority))
  | host (opens : '[' ∈ authority) (closes : ']' ∈ authority)
      (noHost : ¬IsBracketedHost (bracketed authority))
  | disguised {c : Char} (member : c ∈ authority) (passes : c.toNat ∈ disguises)

variable {authority : List Char}

theorem isBracketedHost_iff {host : List Char} : IsBracketedHost host ↔
    if host.head? = some 'v' then isFutureAddress host = true
    else isOldAddress host = false ∧ isAddress host = true := by
  split
  next marked =>
    refine ⟨fun isHost => ?_, .future marked⟩
    cases isHost with
    | future _ isFuture => exact isFuture
    | address unmarked => exact absurd marked unmarked
  next unmarked =>
    refine ⟨fun isHost => ?_, fun given => .address unmarked given.1 given.2⟩
    cases isHost with
    | future marked => exact absurd marked unmarked
    | address _ new isAddress => exact ⟨new, isAddress⟩

theorem exists_checkBrackets_eq_error_iff : (∃ fault, checkBrackets authority = .error fault) ↔
    ¬('[' ∈ authority ↔ ']' ∈ authority) ∨
      '[' ∈ authority ∧ ']' ∈ authority ∧ ¬IsBracketedHost (bracketed authority) := by
  unfold checkBrackets
  by_cases opens : '[' ∈ authority <;> by_cases closes : ']' ∈ authority
  · rw [isBracketedHost_iff, bracketed]
    generalize (Text.cut ']' ((Text.cut '[' authority).2.getD [])).1 = host
    by_cases marked : host.head? = some 'v'
    · cases future : isFutureAddress host <;> simp [opens, closes, marked, future]
    · cases old : isOldAddress host <;> cases new : isAddress host <;>
        simp [opens, closes, marked, old, new]
  all_goals simp [opens, closes]

theorem exists_checkDisguises_eq_error_iff :
    (∃ fault, checkDisguises authority = .error fault) ↔
      ∃ c ∈ authority, c.toNat ∈ disguises := by
  unfold checkDisguises
  split <;> simp_all

theorem exists_ofString_eq_error_iff (defaultScheme : List Char) {text : String} :
    (∃ fault, ofString defaultScheme text = .error fault) ↔ Spoils (authorityOf text) := by
  have spoils : Spoils (authorityOf text) ↔
      (∃ fault, checkBrackets (authorityOf text) = .error fault) ∨
        ∃ fault, checkDisguises (authorityOf text) = .error fault := by
    rw [exists_checkBrackets_eq_error_iff, exists_checkDisguises_eq_error_iff]
    constructor
    · rintro (alone | ⟨opens, closes, noHost⟩ | ⟨member, passes⟩)
      · exact .inl (.inl alone)
      · exact .inl (.inr ⟨opens, closes, noHost⟩)
      · exact .inr ⟨_, member, passes⟩
    · rintro ((alone | ⟨opens, closes, noHost⟩) | ⟨c, member, passes⟩)
      · exact .single alone
      · exact .host opens closes noHost
      · exact .disguised member passes
  rw [spoils, ofString]
  change (∃ fault, (checkBrackets (authorityOf text) >>= fun _ =>
    checkDisguises (authorityOf text) >>= fun _ => _) = _) ↔ _
  cases checkBrackets (authorityOf text) <;> cases checkDisguises (authorityOf text) <;>
    simp [bind, Except.bind, pure, Except.pure]

end Url

end RouteTypes
