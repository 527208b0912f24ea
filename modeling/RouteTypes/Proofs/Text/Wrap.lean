import Mathlib.Data.List.Forall2
import Mathlib.Data.List.TakeWhile
import RouteTypes.Proofs.FilePath
import RouteTypes.Text.Wrap

/-!
# What a terminal shows of a text

Laying out a text for a terminal moves its blanks: tabs become spaces, line breaks are put in, and
blanks at the end of a line are dropped. Its letters stay, in their order, as long as none is wider
than a line, and where a word starts in the text, one starts on the terminal (`shows_wrap`). So
words are never joined; they may be cut, as a word has to be that is wider than a line.
-/

namespace RouteTypes.Text

/-! ## Letters and words -/

/-- The letters of a text, each with whether it starts a word. -/
def lettersFrom (starts : Bool) : List Char → List (Char × Bool)
  | [] => []
  | c :: rest => if isBlank c then lettersFrom true rest else (c, starts) :: lettersFrom false rest

/-- A letter is shown as itself, and it starts a word where it does so in the text. -/
def Keeps (letter shown : Char × Bool) : Prop :=
  letter.1 = shown.1 ∧ (letter.2 = true → shown.2 = true)

/-- What is shown has the letters of a text, in their order, and a word starts where one starts in
the text. -/
def Shows (text shown : List Char) : Prop :=
  List.Forall₂ Keeps (lettersFrom true text) (lettersFrom true shown)

/-- The next letter starts a word where the last character before it is blank. -/
def startsBehind (starts : Bool) : List Char → Bool
  | [] => starts
  | c :: rest => startsBehind (isBlank c) rest

variable {text first second : List Char} {starts other : Bool} {limit : Nat}

@[simp] theorem lettersFrom_nil : lettersFrom starts [] = [] := rfl

@[simp] theorem lettersFrom_blank {c : Char} (blank : isBlank c = true) :
    lettersFrom starts (c :: text) = lettersFrom true text :=
  if_pos blank

@[simp] theorem lettersFrom_letter {c : Char} (letter : isBlank c = false) :
    lettersFrom starts (c :: text) = (c, starts) :: lettersFrom false text :=
  if_neg (Bool.eq_false_iff.1 letter)

@[simp] theorem lettersFrom_append :
    lettersFrom starts (first ++ second) =
      lettersFrom starts first ++ lettersFrom (startsBehind starts first) second := by
  induction first generalizing starts with
  | nil => rfl
  | cons c rest ih =>
      cases blank : isBlank c with
      | true =>
          rw [List.cons_append, lettersFrom_blank blank, lettersFrom_blank blank, ih, startsBehind,
            blank]
      | false =>
          rw [List.cons_append, lettersFrom_letter blank, lettersFrom_letter blank, ih,
            startsBehind, blank, List.cons_append]

theorem lettersFrom_of_blank (blank : ∀ c ∈ text, isBlank c = true) :
    lettersFrom starts text = [] := by
  induction text generalizing starts with
  | nil => rfl
  | cons c rest ih =>
      rw [lettersFrom_blank (blank c List.mem_cons_self)]
      exact ih fun other member => blank other (List.mem_cons_of_mem _ member)

/-- Behind a blank, letters are read as at the start. -/
theorem lettersFrom_append_cons {c : Char} (blank : isBlank c = true) :
    lettersFrom starts (first ++ c :: second) =
      lettersFrom starts first ++ lettersFrom true second := by
  rw [lettersFrom_append, lettersFrom_blank blank]

/-- Blanks at the start of a text change nothing. -/
theorem lettersFrom_blank_append (blank : ∀ c ∈ first, isBlank c = true) :
    lettersFrom true (first ++ second) = lettersFrom true second := by
  induction first with
  | nil => rfl
  | cons c rest ih =>
      rw [List.cons_append, lettersFrom_blank (blank c List.mem_cons_self)]
      exact ih fun other member => blank other (List.mem_cons_of_mem _ member)

/-- Blanks at the end of a text change nothing. -/
theorem lettersFrom_append_blank (blank : ∀ c ∈ second, isBlank c = true) :
    lettersFrom starts (first ++ second) = lettersFrom starts first := by
  rw [lettersFrom_append, lettersFrom_of_blank blank, List.append_nil]

instance : Std.Refl Keeps := ⟨fun _ => ⟨rfl, id⟩⟩

/-- A text may start a word earlier than it does. -/
theorem keeps_lettersFrom (starts : Bool) (text : List Char) :
    List.Forall₂ Keeps (lettersFrom starts text) (lettersFrom true text) := by
  cases text with
  | nil => exact .nil
  | cons c rest =>
      cases blank : isBlank c with
      | true =>
          rw [lettersFrom_blank blank, lettersFrom_blank blank]
          exact List.forall₂_refl _
      | false =>
          rw [lettersFrom_letter blank, lettersFrom_letter blank]
          exact .cons ⟨rfl, fun _ => rfl⟩ (List.forall₂_refl _)

/-- What is shown of two texts, one behind the other, with a blank between them. -/
theorem Shows.join {shown behind : List Char} (left : Shows first shown)
    (right : Shows second behind) (c : Char) (blank : isBlank c = true) :
    Shows (first ++ c :: second) (shown ++ c :: behind) := by
  rw [Shows, lettersFrom_append_cons blank, lettersFrom_append_cons blank]
  exact List.rel_append left right

theorem Shows.append_blank {shown : List Char} (shows' : Shows text shown)
    (blank : ∀ c ∈ second, isBlank c = true) : Shows text (shown ++ second) := by
  rwa [Shows, lettersFrom_append_blank blank]

/-- Wherever a text is broken into lines, the lines show it. -/
theorem keeps_flatten (starts : Bool) (lines : List (List Char)) :
    List.Forall₂ Keeps (lettersFrom starts lines.flatten)
      (lines.flatMap (lettersFrom true)) := by
  induction lines generalizing starts with
  | nil => exact .nil
  | cons line rest ih =>
      rw [List.flatten_cons, lettersFrom_append, List.flatMap_cons]
      exact List.rel_append (keeps_lettersFrom starts line) (ih _)

/-! ## Lines of a text -/

@[simp] theorem lettersFrom_expandTabs (column : Nat) (text : List Char) :
    lettersFrom starts (expandTabs column text) = lettersFrom starts text := by
  induction text generalizing starts column with
  | nil => rfl
  | cons c rest ih =>
      have tab : isBlank '\t' = true := by decide
      have space : isBlank ' ' = true := by decide
      by_cases isTab : c = '\t'
      · subst isTab
        rw [expandTabs, lettersFrom_blank tab]
        -- There is at least one space, so a word ends here.
        obtain ⟨more, count⟩ : ∃ more, (column / tabWidth + 1) * tabWidth - column = more + 1 :=
          ⟨_, (Nat.sub_add_cancel (by unfold tabWidth; omega)).symm⟩
        rw [count, List.replicate_succ, List.cons_append, lettersFrom_blank space,
          lettersFrom_blank_append (by simp [space]), ih]
      · rw [expandTabs]
        · cases blank : isBlank c with
          | true => rw [lettersFrom_blank blank, lettersFrom_blank blank, ih]
          | false => rw [lettersFrom_letter blank, lettersFrom_letter blank, ih]
        · exact isTab

/-- Within a word or behind one, the words of a line are all of it. -/
theorem flatten_wordsFrom {part : WordPart} (inWord : part ≠ .before) (word line : List Char) :
    (wordsFrom part word line).flatten = word.reverse ++ line := by
  induction line generalizing part word with
  | nil => simp [wordsFrom, inWord]
  | cons c rest ih =>
      rw [wordsFrom, if_neg inWord]
      split
      · rw [ih (by decide)]
        simp
      · split
        · rw [List.flatten_cons, ih (by decide)]
          simp
        · rw [ih (by decide)]
          simp

/-- The words of a line are all of it, unless the line is blank and has no words. -/
theorem flatten_words_or (word line : List Char) :
    (wordsFrom .before word line).flatten = word.reverse ++ line ∨
      wordsFrom .before word line = [] ∧ ∀ c ∈ line, isBlank c = true := by
  induction line generalizing word with
  | nil => exact .inr ⟨rfl, by simp⟩
  | cons c rest ih =>
      rw [wordsFrom]
      split
      next blank =>
        refine (ih (c :: word)).imp (fun all => ?_) fun empty => ?_
        · rw [if_pos rfl, all]
          simp
        · exact ⟨empty.1, List.forall_mem_cons.2 ⟨blank, empty.2⟩⟩
      next =>
        refine .inl ?_
        rw [if_neg (by decide), flatten_wordsFrom (by decide)]
        simp

/-! ## Width -/

/-- Two columns are enough for every character. -/
theorem charWidth_le_two (c : Char) : charWidth c ≤ 2 := by
  unfold charWidth
  split
  · decide
  · split
    · decide
    · split <;> decide

@[simp] theorem width_append : width (first ++ second) = width first + width second := by
  induction first with
  | nil => simp [width]
  | cons c rest ih => rw [List.cons_append, width, width, ih, Nat.add_assoc]

/-- The blanks at the end of a text. -/
def blanksBehind (text : List Char) : List Char :=
  (text.reverse.takeWhile isBlank).reverse

theorem trimEnd_append_blanksBehind (text : List Char) :
    trimEnd text ++ blanksBehind text = text := by
  rw [trimEnd, blanksBehind, ← List.reverse_append, List.takeWhile_append_dropWhile,
    List.reverse_reverse]

theorem isBlank_of_mem_blanksBehind {c : Char} (member : c ∈ blanksBehind text) :
    isBlank c = true :=
  List.mem_takeWhile_imp (List.mem_reverse.1 member)

theorem width_trimEnd_le (text : List Char) : width (trimEnd text) ≤ width text := by
  have whole : width text = width (trimEnd text) + width (blanksBehind text) := by
    rw [← width_append, trimEnd_append_blanksBehind]
  omega

@[simp] theorem width_reverse (text : List Char) : width text.reverse = width text := by
  induction text with
  | nil => rfl
  | cons c rest ih => rw [List.reverse_cons, width_append, ih, width, width, width]; omega

/-- A line takes no more columns than there are, blanks at its end apart. -/
def Fits (limit : Nat) (line : List Char) : Prop :=
  width (trimEnd line) ≤ limit

theorem fits_of_width (fits : width text ≤ limit) : Fits limit text :=
  (width_trimEnd_le text).trans fits

/-- The blanks at the end of a text are those at the end of its last part, unless this is blank. -/
theorem fits_append (fits : width first + width (trimEnd second) ≤ limit) :
    Fits limit (first ++ second) := by
  have ends : trimEnd (first ++ second) = trimEnd first ∨
      trimEnd (first ++ second) = first ++ trimEnd second := by
    rw [trimEnd, List.reverse_append, List.dropWhile_append]
    split
    · exact .inl rfl
    · rw [List.reverse_append, List.reverse_reverse]
      exact .inr rfl
  have shorter := width_trimEnd_le first
  rcases ends with same | same
  · rw [Fits, same]
    omega
  · rwa [Fits, same, width_append]

/-- No piece of a word is wider than a line. -/
theorem width_cutWord_le {piece word : List Char} {column : Nat}
    (narrow : ∀ c ∈ word, charWidth c ≤ limit) (taken : width piece = column)
    (fits : column ≤ limit) : ∀ part ∈ cutWord limit piece column word, width part ≤ limit := by
  have ended : width piece.reverse ≤ limit := by rwa [width_reverse, taken]
  induction word generalizing piece column with
  | nil => simpa [cutWord] using ended
  | cons c rest ih =>
      obtain ⟨here, later⟩ := List.forall_mem_cons.1 narrow
      rw [cutWord]
      split
      next full =>
        have single : width [c] = charWidth c := by simp [width]
        refine List.forall_mem_cons.2 ⟨ended, ih later single here ?_⟩
        rwa [width_reverse, single]
      next room =>
        have longer : width (c :: piece) = column + charWidth c := by
          rw [width, taken, Nat.add_comm]
        refine ih later longer (Nat.not_lt.1 room) ?_
        rw [width_reverse, longer]
        exact Nat.not_lt.1 room

theorem flatten_cutWord (piece word : List Char) (column : Nat) :
    (cutWord limit piece column word).flatten = piece.reverse ++ word := by
  induction word generalizing piece column with
  | nil => simp [cutWord]
  | cons c rest ih =>
      rw [cutWord]
      split
      · simp [ih]
      · simp [ih]

theorem cutWord_ne_nil (piece word : List Char) (column : Nat) :
    cutWord limit piece column word ≠ [] := by
  induction word generalizing piece column with
  | nil => simp [cutWord]
  | cons c rest ih =>
      rw [cutWord]
      split
      · simp
      · exact ih _ _

theorem flatten_dropLast_cutWord (word : List Char) :
    (cutWord limit [] 0 word).dropLast.flatten ++ (cutWord limit [] 0 word).getLastD [] = word := by
  rw [List.getLastD_eq_getLast?, List.getLast?_eq_some_getLast (cutWord_ne_nil [] word 0),
    Option.getD_some, ← List.flatten_concat, List.dropLast_append_getLast, flatten_cutWord]
  rfl

theorem flatten_closeLine (line : List Char) (lines : List (List Char)) :
    (closeLine line lines).flatten = line ++ lines.flatten := by
  rw [closeLine]
  split
  next empty => rw [List.isEmpty_iff.1 empty, List.nil_append]
  next => rfl

theorem mem_closeLine {line other : List Char} {lines : List (List Char)}
    (member : other ∈ closeLine line lines) : other = line ∨ other ∈ lines := by
  rw [closeLine] at member
  split at member
  · exact .inr member
  · exact List.mem_cons.1 member

/-- The lines of words hold all of them. -/
theorem flatten_fillLines (line : List Char) (words : List (List Char)) :
    (fillLines limit line words).flatten = line ++ words.flatten := by
  induction words generalizing line with
  | nil => simp [fillLines]
  | cons word rest ih =>
      rw [fillLines]
      split
      · rw [ih, List.flatten_cons, List.append_assoc]
      · split
        · rw [flatten_closeLine, List.flatten_append, ih, ← List.append_assoc _ _ rest.flatten,
            flatten_dropLast_cutWord, List.flatten_cons]
        · rw [flatten_closeLine, ih, List.flatten_cons]

/-- No line of words is wider than it may be. -/
theorem fits_fillLines {line : List Char} {words : List (List Char)} (fits : Fits limit line)
    (narrow : ∀ word ∈ words, ∀ c ∈ word, charWidth c ≤ limit) :
    ∀ other ∈ fillLines limit line words, Fits limit other := by
  induction words generalizing line with
  | nil => simpa [fillLines] using fits
  | cons word rest ih =>
      obtain ⟨here, later⟩ := List.forall_mem_cons.1 narrow
      rw [fillLines]
      split
      next room => exact ih (fits_append room) later
      next full =>
        intro other member
        split at member
        next wide =>
          have pieces := width_cutWord_le here (show width [] = 0 from rfl) (Nat.zero_le limit)
          rcases mem_closeLine member with rfl | member
          · exact fits
          · rcases List.mem_append.1 member with cut | member
            · exact fits_of_width (pieces other ((List.dropLast_sublist _).subset cut))
            · refine ih (fits_of_width ?_) later other member
              rw [List.getLastD_eq_getLast?,
                List.getLast?_eq_some_getLast (cutWord_ne_nil [] word 0), Option.getD_some]
              exact pieces _ (List.getLast_mem _)
        next short =>
          rcases mem_closeLine member with rfl | member
          · exact fits
          · exact ih (Nat.not_lt.1 short) later other member

/-! ## What is left out -/

theorem lettersFrom_crop_blank (limit : Nat) (blank : ∀ c ∈ text, isBlank c = true) :
    ∀ c ∈ crop limit text, isBlank c = true := by
  induction text generalizing limit with
  | nil => simp [crop]
  | cons c rest ih =>
      obtain ⟨here, later⟩ := List.forall_mem_cons.1 blank
      rw [crop]
      split
      · exact List.forall_mem_cons.2 ⟨here, ih _ later⟩
      · intro other member
        rw [List.eq_of_mem_replicate member]
        decide

theorem crop_append (fits : width first ≤ limit) :
    crop limit (first ++ second) = first ++ crop (limit - width first) second := by
  induction first generalizing limit with
  | nil => rfl
  | cons c rest ih =>
      rw [width] at fits
      rw [List.cons_append, crop, if_pos (by omega), ih (by omega), width, List.cons_append,
        Nat.sub_sub]

/-- What is dropped at the end of a line are blanks. -/
theorem dropExcess_eq (limit : Nat) (line : List Char) :
    ∃ count, dropExcess limit line = trimEnd line ++ (blanksBehind line).take count := by
  have whole := congrArg List.length (trimEnd_append_blanksBehind line)
  have blanks : (blanksBehind line).length = (line.reverse.takeWhile isBlank).length :=
    List.length_reverse
  rw [List.length_append, blanks] at whole
  obtain ⟨taken, isTaken, enough⟩ : ∃ taken, dropExcess limit line = line.take taken ∧
      (trimEnd line).length ≤ taken := ⟨_, rfl, by omega⟩
  refine ⟨taken - (trimEnd line).length, ?_⟩
  calc dropExcess limit line = (trimEnd line ++ blanksBehind line).take taken := by
        rw [isTaken, trimEnd_append_blanksBehind]
    _ = _ := by rw [List.take_append, List.take_of_length_le enough]

/-- A line that fits is shown with all its letters. -/
theorem lettersFrom_shown {line : List Char} (fits : Fits limit line) :
    lettersFrom starts (crop limit (dropExcess limit line)) = lettersFrom starts line := by
  obtain ⟨count, kept⟩ := dropExcess_eq limit line
  have left (c : Char) (member : c ∈ (blanksBehind line).take count) : isBlank c = true :=
    isBlank_of_mem_blanksBehind (List.mem_of_mem_take member)
  rw [kept, crop_append fits, lettersFrom_append_blank (lettersFrom_crop_blank _ left)]
  conv_rhs => rw [← trimEnd_append_blanksBehind line,
    lettersFrom_append_blank fun _ => isBlank_of_mem_blanksBehind]

/-! ## The whole layout -/

theorem charWidth_of_mem_expandTabs (column : Nat) (room : 0 < limit)
    (narrow : ∀ c ∈ text, charWidth c ≤ limit) :
    ∀ c ∈ expandTabs column text, charWidth c ≤ limit := by
  induction text generalizing column with
  | nil => simp [expandTabs]
  | cons c rest ih =>
      obtain ⟨here, later⟩ := List.forall_mem_cons.1 narrow
      by_cases isTab : c = '\t'
      · subst isTab
        intro other member
        rcases List.mem_append.1 member with space | member
        · rw [List.eq_of_mem_replicate space]
          exact room
        · exact ih _ later other member
      · rw [expandTabs]
        · exact List.forall_mem_cons.2 ⟨here, ih _ later⟩
        · exact isTab

theorem fits_of_blank (blank : ∀ c ∈ text, isBlank c = true) : Fits limit text := by
  have none : trimEnd text = [] := by
    rw [trimEnd, List.reverse_eq_nil_iff, List.dropWhile_eq_nil_iff]
    exact fun c member => blank c (List.mem_reverse.1 member)
  rw [Fits, none]
  exact Nat.zero_le limit

/-- The words of a line are laid out in lines that fit and hold all of it. Of each line is shown
what fits. -/
theorem exists_lines {line : List Char} (room : 0 < limit)
    (narrow : ∀ c ∈ line, charWidth c ≤ limit) :
    ∃ lines : List (List Char),
      wrapLine limit line = lines.map (fun line => crop limit (dropExcess limit line)) ∧
        lines.flatten = expandTabs 0 line ∧ ∀ other ∈ lines, Fits limit other := by
  have expanded := charWidth_of_mem_expandTabs 0 room narrow
  have all := flatten_words_or [] (expandTabs 0 line)
  rw [List.reverse_nil, List.nil_append] at all
  refine ⟨_, rfl, ?_⟩
  split
  next none =>
    refine ⟨by simp, List.forall_mem_singleton.2 ?_⟩
    rcases all with all | ⟨_, blank⟩
    · refine fits_of_blank fun c member => ?_
      rw [← all, ← words, none] at member
      cases member
    · exact fits_of_blank blank
  next some =>
    rcases all with all | ⟨none, _⟩
    · refine ⟨(flatten_fillLines [] _).trans all, fits_fillLines (fits_of_blank (by simp)) ?_⟩
      intro word member c inside
      exact expanded c (all ▸ List.mem_flatten_of_mem member inside)
    · exact absurd none some

/-- The lines of a line of a text show it, where no character is wider than they may be. -/
theorem keeps_wrapLine {line : List Char} (room : 0 < limit)
    (narrow : ∀ c ∈ line, charWidth c ≤ limit) :
    List.Forall₂ Keeps (lettersFrom true line)
      ((wrapLine limit line).flatMap (lettersFrom true)) := by
  obtain ⟨lines, laidOut, all, fits⟩ := exists_lines room narrow
  have shown : (wrapLine limit line).flatMap (lettersFrom true) =
      lines.flatMap (lettersFrom true) := by
    rw [laidOut, List.flatMap_map]
    exact List.flatMap_congr fun other member => lettersFrom_shown (fits other member)
  rw [← lettersFrom_expandTabs 0 line, shown, ← all]
  exact keeps_flatten true lines

@[simp] theorem lettersFrom_intercalate (lines : List (List Char)) :
    lettersFrom true (['\n'].intercalate lines) = lines.flatMap (lettersFrom true) := by
  have lineBreak : isBlank '\n' = true := by decide
  induction lines with
  | nil => rfl
  | cons line rest ih =>
      cases rest with
      | nil => simp
      | cons next rest =>
          rw [List.intercalate_cons_cons, List.append_assoc, List.singleton_append,
            lettersFrom_append_cons lineBreak, ih]
          rfl

theorem mem_intercalate_of_mem {mark c : Char} {parts : List (List Char)} {part : List Char}
    (member : part ∈ parts) (inside : c ∈ part) : c ∈ [mark].intercalate parts := by
  induction parts with
  | nil => cases member
  | cons first rest ih =>
      cases rest with
      | nil =>
          rw [List.mem_singleton.1 member] at inside
          simpa using inside
      | cons next rest =>
          rw [List.intercalate_cons_cons]
          rcases List.mem_cons.1 member with rfl | member
          · simp [inside]
          · exact List.mem_append_right _ (ih member)

theorem forall₂_flatMap {α β : Type} {related : β → β → Prop} {items : List α}
    {left right : α → List β}
    (each : ∀ item ∈ items, List.Forall₂ related (left item) (right item)) :
    List.Forall₂ related (items.flatMap left) (items.flatMap right) := by
  induction items with
  | nil => exact .nil
  | cons item rest ih =>
      obtain ⟨here, later⟩ := List.forall_mem_cons.1 each
      exact List.rel_append here (ih later)

/-- The lines that a text is laid out in show it, where no character that is shown is wider than
they may be. Control characters are left out. -/
theorem shows_wrap {text : List Char} (room : 0 < limit)
    (narrow : ∀ c ∈ text.filter (!isUnshown ·), charWidth c ≤ limit) :
    Shows (text.filter (!isUnshown ·)) (['\n'].intercalate (wrap limit text)) := by
  have joined : ['\n'].intercalate (splitOn '\n' (text.filter (!isUnshown ·))) =
      text.filter (!isUnshown ·) := by
    rw [splitOn_eq, List.intercalate_splitOn]
  unfold Shows
  rw [← joined, lettersFrom_intercalate, lettersFrom_intercalate, wrap, List.flatMap_assoc]
  refine forall₂_flatMap fun line member => keeps_wrapLine room fun c inside => narrow c ?_
  rw [← joined]
  exact mem_intercalate_of_mem member inside

end RouteTypes.Text
