import RouteTypes.Proofs.Json.Portable
import RouteTypes.Proofs.Yaml.Cursor

/-!
# Words between white space

Readers of YAML move over the white space of a portable text (`Cursor.span_gap`,
`Cursor.lineEnd_gap`). A word or number is read as a plain scalar together with the white space
behind it, where a mark of a flow collection follows (`Lexeme.plain_literal`).
-/

namespace RouteTypes.Yaml

open Json (IsGap)

/-! ## White space -/

/-- A text that does not go on with white space or a comment. -/
def Halts (text : List Char) : Prop :=
  ∀ c ∈ text.head?, isBreak c = false ∧ c ≠ ' ' ∧ c ≠ '#'

theorem halts_cons {c : Char} (stays : isBreak c = false ∧ c ≠ ' ' ∧ c ≠ '#') (rest : List Char) :
    Halts (c :: rest) := by
  intro first isFirst
  cases isFirst
  exact stays

namespace Cursor

variable {cursor : Cursor} {gap text : List Char}

/-- Spaces are skipped up to the end of a line or of the white space. -/
theorem span_gap (halts : Halts text) (left : cursor.rest = gap ++ text) :
    ∃ spaces others, gap = spaces ++ others ∧ (∀ c ∈ others.head?, c ≠ ' ') ∧
      cursor.span (· == ' ') = (spaces, cursor.advance spaces.length) := by
  have split : gap = gap.takeWhile (· == ' ') ++ gap.dropWhile (· == ' ') :=
    List.takeWhile_append_dropWhile.symm
  have stops : ∀ c ∈ (gap.dropWhile (· == ' ')).head?, (c == ' ') = false := by
    intro c first
    have none := List.head?_dropWhile_not (· == ' ') gap
    rw [Option.mem_def.1 first] at none
    simpa using none
  have behind : ∀ c ∈ (gap.dropWhile (· == ' ') ++ text).head?, (c == ' ') = false := by
    intro c first
    rw [List.head?_append, Option.mem_def, Option.or_eq_some_iff] at first
    rcases first with first | ⟨_, first⟩
    · exact stops c first
    · simpa using (halts c first).2.1
  have spaces : ∀ c ∈ gap.takeWhile (· == ' '), (c == ' ') = true :=
    List.all_eq_true.1 List.all_takeWhile
  have taken := Json.takeWhile_append_of_head spaces behind
  rw [← List.append_assoc, ← split] at taken
  refine ⟨_, _, split, fun c first => by simpa using stops c first, ?_⟩
  simp only [span, left, taken.1]

/-- A line end is one or two characters of the white space. -/
theorem lineEnd_gap {c : Char} (isGap : IsGap (c :: gap)) (halts : Halts text) (notSpace : c ≠ ' ')
    (left : cursor.rest = c :: (gap ++ text)) :
    ∃ taken others, c :: gap = taken ++ others ∧ taken ≠ [] ∧
      cursor.lineEnd = (['\n'], cursor.advance taken.length) := by
  rcases isGap c List.mem_cons_self with rfl | rfl | rfl
  · exact absurd rfl notSpace
  · refine ⟨['\n'], gap, rfl, by simp, ?_⟩
    simp [lineEnd, left, isBreak, advance]
  · by_cases pair : (gap ++ text).head? = some '\n'
    · obtain ⟨others, isPair⟩ := List.head?_eq_some_iff.1 pair
      cases gap with
      | nil => exact absurd (halts '\n' pair).1 (by decide)
      | cons next gap =>
          cases isPair
          refine ⟨['\r', '\n'], gap, rfl, by simp, ?_⟩
          simp [lineEnd, left]
    · refine ⟨['\r'], gap, rfl, by simp, ?_⟩
      have single : ∀ others, gap ++ text ≠ '\n' :: others := by
        intro others same
        rw [same] at pair
        exact pair rfl
      rw [lineEnd, left]
      split
      next same => exact absurd (List.cons.inj same).2 (single _)
      next same =>
        cases same
        simp [isBreak, advance]
      next same => cases same

/-- Behind spaces, white space goes on exactly where a line ends. -/
theorem here_gap (isGap : IsGap gap) (halts : Halts text) (first : ∀ c ∈ gap.head?, c ≠ ' ')
    (left : cursor.rest = gap ++ text) :
    cursor.here ≠ '#' ∧ (isBreak cursor.here = true ↔ gap ≠ []) := by
  cases gap with
  | nil =>
      cases text with
      | nil =>
          rw [here, left]
          decide
      | cons c later =>
          rw [here_of_rest left]
          obtain ⟨noBreak, _, noComment⟩ := halts c rfl
          simp [noBreak, noComment]
  | cons c gap =>
      rw [here_of_rest left]
      rcases isGap c List.mem_cons_self with rfl | rfl | rfl
      · exact absurd rfl (first ' ' rfl)
      · simp [isBreak]
      · simp [isBreak]

end Cursor

theorem IsGap.behind {front behind : List Char} (isGap : IsGap (front ++ behind)) : IsGap behind :=
  fun c member => isGap c (List.mem_append_right _ member)

/-! ## Words -/

/-- A text that goes on with a mark that stands behind an item or entry. -/
def Closes (text : List Char) : Prop :=
  ∃ c later, text = c :: later ∧ c ∈ [',', ']', '\x7d']

theorem Closes.halts {text : List Char} (closes : Closes text) : Halts text := by
  obtain ⟨c, later, rfl, mark⟩ := closes
  have known : ∀ c ∈ [',', ']', '\x7d'], isBreak c = false ∧ c ≠ ' ' ∧ c ≠ '#' := by decide
  intro other first
  cases first
  exact known c mark

namespace Lexeme

variable {cursor : Cursor} {gap text word : List Char}

theorem isSeparator_gap (isGap : IsGap gap) (closes : Closes text)
    (left : cursor.rest = gap ++ text) : cursor.isSeparator = false := by
  have other : cursor.here ≠ '-' ∧ cursor.here ≠ '.' := by
    cases gap with
    | nil =>
        obtain ⟨c, later, rfl, mark⟩ := closes
        rw [Cursor.here_of_rest left]
        exact (by decide : ∀ c ∈ [',', ']', '\x7d'], c ≠ '-' ∧ c ≠ '.') c mark
    | cons c gap =>
        rw [Cursor.here_of_rest left]
        rcases isGap c List.mem_cons_self with rfl | rfl | rfl <;> decide
  simp [Cursor.isSeparator, Cursor.isMarker, other]

theorem plainBreaks_gap (isGap : IsGap gap) (closes : Closes text)
    (left : cursor.rest = gap ++ text) {fuel : Nat} (enough : gap.length < fuel) :
    ∃ breaks, plainBreaks fuel cursor = (some breaks, cursor.advance gap.length) := by
  induction fuel generalizing cursor gap with
  | zero => exact absurd enough (Nat.not_lt_zero _)
  | succ fuel ih =>
      cases gap with
      | nil =>
          have halts := closes.halts
          obtain ⟨c, later, rfl, _⟩ := closes
          have visible := halts c rfl
          refine ⟨[], ?_⟩
          simp [plainBreaks, Cursor.here_of_rest left, visible, Cursor.advance]
      | cons c gap =>
          rw [List.length_cons] at enough
          by_cases space : c = ' '
          · subst space
            obtain ⟨breaks, read⟩ := ih (fun c member => isGap c (List.mem_cons_of_mem _ member))
              (Cursor.next_of_rest left) (by omega)
            refine ⟨breaks, ?_⟩
            rw [plainBreaks, Cursor.here_of_rest left, if_pos (by decide), read]
            rfl
          · obtain ⟨taken, others, split, some, ends⟩ :=
              Cursor.lineEnd_gap isGap closes.halts space left
            have consumed : 0 < taken.length := List.length_pos_iff.2 some
            have breaks : isBreak c = true := by
              rcases isGap c List.mem_cons_self with rfl | rfl | rfl
              · exact absurd rfl space
              · decide
              · decide
            have isLeft : IsGap others := IsGap.behind (split ▸ isGap)
            have place : (cursor.advance taken.length).rest = others ++ text := by
              rw [Cursor.rest_advance, left, split, List.append_assoc, List.drop_left]
            have length := congrArg List.length split
            rw [List.length_cons, List.length_append] at length
            obtain ⟨more, read⟩ := ih isLeft place (by omega)
            refine ⟨['\n'] ++ more, ?_⟩
            rw [plainBreaks, Cursor.here_of_rest left, if_neg (by simpa using space), if_pos breaks,
              ends]
            dsimp only
            rw [isSeparator_gap isLeft closes place, if_neg Bool.false_ne_true, read,
              Cursor.advance_advance, split, List.length_append]
            rfl

/-- White space behind a word is no part of the scalar, where a mark follows. -/
theorem plainGap_gap (isGap : IsGap gap) (closes : Closes text)
    (left : cursor.rest = gap ++ text) :
    ∃ shown breaks, plainGap cursor = ⟨shown, breaks, cursor.advance gap.length⟩ ∧
      (shown = [] → gap = []) := by
  obtain ⟨spaces, others, rfl, first, spanned⟩ := Cursor.span_gap closes.halts left
  have behind : (cursor.advance spaces.length).rest = others ++ text := by
    rw [Cursor.rest_advance, left, List.append_assoc, List.drop_left]
  have isOthers : IsGap others := IsGap.behind isGap
  obtain ⟨_, goesOn⟩ := Cursor.here_gap isOthers closes.halts first behind
  rw [plainGap, spanned]
  dsimp only
  split
  next ends =>
    cases others with
    | nil => exact absurd rfl (goesOn.1 ends)
    | cons c others =>
        obtain ⟨taken, left', split, some, isEnd⟩ :=
          Cursor.lineEnd_gap isOthers closes.halts (first c rfl) behind
        have isLeft : IsGap left' := IsGap.behind (split ▸ isOthers)
        have place :
            ((cursor.advance spaces.length).advance taken.length).rest = left' ++ text := by
          rw [Cursor.rest_advance, behind, split, List.append_assoc, List.drop_left]
        have enough : left'.length <
            ((cursor.advance spaces.length).advance taken.length).rest.length + 1 := by
          rw [place, List.length_append]
          omega
        obtain ⟨breaks, read⟩ := plainBreaks_gap isLeft closes place enough
        have length : (spaces ++ c :: others).length =
            spaces.length + taken.length + left'.length := by
          rw [List.length_append, split, List.length_append, Nat.add_assoc]
        refine ⟨(if breaks.isEmpty then [' '] else []) ++ breaks, true, ?_, ?_⟩
        · rw [isEnd]
          dsimp only
          rw [isSeparator_gap isLeft closes place, if_neg Bool.false_ne_true, read, length,
            ← Cursor.advance_advance, ← Cursor.advance_advance]
          rfl
        · cases breaks <;> simp
  next calm =>
    obtain rfl := not_ne_iff.1 fun some => calm (goesOn.2 some)
    exact ⟨spaces, false, by rw [List.append_nil], by simp⟩

theorem plainWord_gap (isGap : IsGap gap) (closes : Closes text) :
    plainWord true (gap ++ text) = [] := by
  cases gap with
  | nil =>
      obtain ⟨c, later, rfl, mark⟩ := closes
      have ends : ∀ c ∈ [',', ']', '\x7d'], ",?[]\x7b\x7d".toList.contains c = true := by decide
      rw [List.nil_append, plainWord, if_pos]
      simp only [endsPlain, ends c mark, Bool.true_and, Bool.or_true]
  | cons c gap =>
      have blank : isBlankOrEnd c = true := by
        rcases isGap c List.mem_cons_self with rfl | rfl | rfl <;> decide
      rw [List.cons_append, plainWord, if_pos]
      simp only [endsPlain, blank, Bool.true_or]

/-- The characters of a word go on up to white space or a mark. -/
theorem plainWord_literal (chars : ∀ c ∈ word, c ∈ Json.literalChars) (isGap : IsGap gap)
    (closes : Closes text) : plainWord true (word ++ (gap ++ text)) = word := by
  have inside : ∀ c ∈ Json.literalChars,
      isBlankOrEnd c = false ∧ c ≠ ':' ∧ ",?[]\x7b\x7d".toList.contains c = false := by decide
  induction word with
  | nil =>
      rw [List.nil_append]
      exact plainWord_gap isGap closes
  | cons c word ih =>
      rw [List.forall_mem_cons] at chars
      obtain ⟨visible, noColon, noMark⟩ := inside c chars.1
      rw [List.cons_append, plainWord, if_neg, ih chars.2]
      simp only [endsPlain, visible, beq_eq_false_iff_ne.2 noColon, noMark, Bool.false_and,
        Bool.and_false, Bool.or_false, Bool.false_eq_true, not_false_eq_true]

/-- A word is read together with the white space behind it. -/
theorem plain_literal (chars : ∀ c ∈ word, c ∈ Json.literalChars) (nonempty : word ≠ [])
    (isGap : IsGap gap) (closes : Closes text) (left : cursor.rest = word ++ (gap ++ text))
    (outer : Int) :
    ∃ breaks, plain true outer cursor =
      ⟨word, breaks, cursor.advance (word.length + gap.length)⟩ := by
  have noComment : (cursor.here == '#') = false := by
    obtain ⟨c, later, rfl⟩ := List.exists_cons_of_ne_nil nonempty
    rw [Cursor.here_of_rest left, beq_eq_false_iff_ne]
    exact (by decide : ∀ c ∈ Json.literalChars, c ≠ '#') c (chars c List.mem_cons_self)
  have isWord : plainWord true cursor.rest = word := by
    rw [left, plainWord_literal chars isGap closes]
  have behind : (cursor.advance word.length).rest = gap ++ text := by
    rw [Cursor.rest_advance, left, List.drop_left]
  obtain ⟨shown, breaks, gapRead, isEmpty⟩ := plainGap_gap isGap closes behind
  rw [Cursor.advance_advance] at gapRead
  have place : (cursor.advance (word.length + gap.length)).rest = text := by
    rw [← Cursor.advance_advance, Cursor.rest_advance, behind, List.drop_left]
  have ended (fuel : Nat) : plainWords true (outer + 1) fuel
      ⟨shown, breaks, cursor.advance (word.length + gap.length)⟩ =
        ⟨[], breaks, cursor.advance (word.length + gap.length)⟩ := by
    cases fuel with
    | zero => rfl
    | succ fuel =>
        have none : plainWord true text = [] := plainWord_gap (nofun : IsGap []) closes
        rw [plainWords]
        dsimp only
        rw [place, none, ite_self]
        rfl
  have notEmpty : word.isEmpty = false := by simpa using nonempty
  refine ⟨breaks, ?_⟩
  rw [plain, plainWords]
  dsimp only
  rw [noComment, if_neg Bool.false_ne_true, isWord, notEmpty, if_neg Bool.false_ne_true, gapRead,
    ended]
  split
  next => rfl
  next => rw [List.nil_append, List.append_nil]

end Lexeme

end RouteTypes.Yaml
