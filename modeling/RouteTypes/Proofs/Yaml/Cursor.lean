import RouteTypes.Proofs.Outcome
import RouteTypes.Yaml.Lexeme

/-!
# Places in a YAML text

A reader of a YAML text ends in front of an end of this text, or it finds the text malformed
(`Reads`).
-/

namespace RouteTypes.Yaml

/-- A cursor stands in a text: what is left is an end of it. -/
def Cursor.Within (text : List Char) (cursor : Cursor) : Prop :=
  cursor.rest <:+ text

namespace Cursor

variable {text : List Char} {cursor : Cursor}

theorem rest_next (cursor : Cursor) : cursor.next.rest = cursor.rest.drop 1 := by
  unfold next
  split
  next empty => simp [empty]
  next found =>
    rw [found]
    dsimp only
    split
    next => rfl
    next => split <;> rfl

theorem rest_advance (count : Nat) (cursor : Cursor) :
    (cursor.advance count).rest = cursor.rest.drop count := by
  induction count generalizing cursor with
  | zero => rfl
  | succ count ih => rw [advance, ih, rest_next, List.drop_drop, Nat.add_comm]

@[simp] theorem here_of_rest {c : Char} {rest : List Char} (left : cursor.rest = c :: rest) :
    cursor.here = c := by
  rw [here, left]
  rfl

theorem next_of_rest {c : Char} {rest : List Char} (left : cursor.rest = c :: rest) :
    cursor.next.rest = rest := by
  rw [rest_next, left]
  rfl

@[simp] theorem advance_advance (first second : Nat) (cursor : Cursor) :
    (cursor.advance first).advance second = cursor.advance (first + second) := by
  induction first generalizing cursor with
  | zero => rw [Nat.zero_add, advance]
  | succ first ih => rw [Nat.add_right_comm, advance, advance, ih]

@[simp] theorem index_next (some : cursor.rest ≠ []) : cursor.next.index = cursor.index + 1 := by
  obtain ⟨c, rest, left⟩ := List.exists_cons_of_ne_nil some
  rw [next, left]
  dsimp only
  split
  next => rfl
  next => split <;> rfl

@[simp] theorem index_advance {count : Nat} (enough : count ≤ cursor.rest.length) :
    (cursor.advance count).index = cursor.index + count := by
  induction count generalizing cursor with
  | zero => rfl
  | succ count ih =>
      have some : cursor.rest ≠ [] := List.ne_nil_of_length_pos (Nat.zero_lt_of_lt enough)
      have left : count ≤ cursor.next.rest.length := by
        rw [rest_next, List.length_drop]
        omega
      rw [advance, ih left, index_next some]
      omega

/-- The line goes on as long as it has no end. -/
theorem line_advance {front behind : List Char} (left : cursor.rest = front ++ behind)
    (within : ∀ c ∈ front, isBreak c = false) :
    (cursor.advance front.length).line = cursor.line := by
  induction front generalizing cursor with
  | nil => rfl
  | cons c front ih =>
      rw [List.forall_mem_cons] at within
      rw [List.length_cons, advance, ih (next_of_rest left) within.2, next, left]
      simp only [List.cons_append, within.1, Bool.false_and, Bool.false_eq_true, if_false]
      split <;> rfl

/-- The character at a place, unless it is the end of the text, is the first of what is left. -/
theorem rest_of_here {c : Char} (here : cursor.here = c) (notEnd : c ≠ '\x00') :
    cursor.rest = c :: cursor.next.rest := by
  rw [rest_next]
  unfold Cursor.here at here
  cases found : cursor.rest with
  | nil =>
      rw [found] at here
      exact absurd here.symm notEnd
  | cons first rest =>
      rw [found] at here
      cases here
      rfl

/-- A character that satisfies the test is taken first. -/
theorem span_of_pos {test : Char → Bool} {c : Char} {rest : List Char}
    (left : cursor.rest = c :: rest) (holds : test c = true) :
    cursor.span test = (c :: (cursor.next.span test).1, (cursor.next.span test).2) := by
  simp [span, left, holds, Cursor.advance, next_of_rest left]

theorem span_of_neg {test : Char → Bool} {c : Char} {rest : List Char}
    (left : cursor.rest = c :: rest) (fails : test c = false) :
    cursor.span test = ([], cursor) := by
  simp [span, left, fails, Cursor.advance]

namespace Within

theorem advance (inside : cursor.Within text) (count : Nat) :
    (cursor.advance count).Within text := by
  rw [Within, rest_advance]
  exact (List.drop_suffix _ _).trans inside

theorem next (inside : cursor.Within text) : cursor.next.Within text := by
  rw [Within, rest_next]
  exact (List.drop_suffix _ _).trans inside

theorem skip (inside : cursor.Within text) (test : Char → Bool) : (cursor.skip test).Within text :=
  inside.advance _

theorem skipComment (inside : cursor.Within text) : cursor.skipComment.Within text := by
  unfold Cursor.skipComment
  split
  next => exact inside.skip _
  next => exact inside

theorem lineEnd (inside : cursor.Within text) : cursor.lineEnd.2.Within text := by
  unfold Cursor.lineEnd
  split
  next => exact inside.advance 2
  next =>
    split
    next => exact inside.next
    next =>
      split
      next => exact inside.next
      next => exact inside
  next => exact inside

end Within

theorem within_next {c : Char} {tail : List Char} (left : cursor.rest = c :: tail) :
    cursor.next.Within tail := by
  simp [Within, next_of_rest left]

/-- Moving over the end of a line takes a character. -/
theorem within_lineEnd {c : Char} {tail : List Char} (left : cursor.rest = c :: tail)
    (breaks : isBreak c = true) : cursor.lineEnd.2.Within tail := by
  have behind := within_next left
  unfold Cursor.lineEnd
  rw [left]
  split
  next => exact behind.advance 1
  next same =>
    cases same
    split
    next => exact behind
    next => exact behind
  next same => cases same

end Cursor

variable {α : Type}

/-- A reader gives what satisfies a condition, or it finds the text malformed. -/
abbrev Reads (condition : α → Prop) (step : Except Fault α) : Prop :=
  Meets (· = .malformed) condition step

theorem reads_malformed {condition : α → Prop} :
    Reads condition (.error .malformed : Except Fault α) :=
  rfl

/-- What is left behind a lexeme is an end of the text. -/
def Ends (text : List Char) (read : α × Cursor) : Prop :=
  read.2.Within text

end RouteTypes.Yaml
