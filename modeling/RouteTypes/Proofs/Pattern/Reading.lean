import RouteTypes.Pattern
import RouteTypes.Proofs.Outcome

/-!
# Reading patterns

Most of what can be wrong with a pattern is a fault of its form. Four problems are not, and for
these the text holds the cause: the digits of a code or of a bound that is too large, those of a
bound that is too long, or the letters of two alphabets (`Pattern.blames_of_read`).

The invariant is `Reading.Within`: what the reader has before it is an end of the text, and the
modes that are on have their letters in it. A step keeps the invariant or fails for a cause that
stands in the text (`Keeps`), and the steps that a reader is made of hand this on (`Keeps.bind`).
-/

namespace RouteTypes.Pattern

/-- A problem that a pattern has through its numbers or its modes stands in its text: the digits of
a code or of a bound that is too large, those of a bound that is too long, or the letters of both
alphabets. -/
def Blames (text : List Char) : Problem → Prop
  | .hugeCode => ∃ digits, digits <:+: text ∧ digits.all isHexDigit ∧ digits.length ≤ 8 ∧
      Nat.pow 2 31 ≤ numberOf 16 digits
  | .largeBound => ∃ digits, digits <:+: text ∧ digits.all Char.isDigit ∧
      4294967295 ≤ numberOf 10 digits
  | .longBound count => ∃ digits, digits <:+: text ∧ digits.all Char.isDigit ∧
      digits.length = count ∧ Number.maxDigits < count
  | .twoAlphabets => 'a' ∈ text ∧ 'u' ∈ text
  | _ => True

/-- The modes name only alphabets whose letters stand in a text. -/
structure Modes.Within (text : List Char) (modes : Modes) : Prop where
  ascii : modes.ascii = true → 'a' ∈ text
  unicode : modes.unicode = true → 'u' ∈ text

/-- The reader stands in a text. -/
structure Reading.Within (text : List Char) (reading : Reading) : Prop where
  behind : reading.next ++ reading.rest <:+ text
  modes : reading.modes.Within text

/-- A step of the reader stays in a text and gives a result with a property, or fails with a problem
that stands in the text. -/
def Keeps {α : Type} (text : List Char) (after : α → Prop) (step : Reader α) : Prop :=
  ∀ reading, reading.Within text → Meets (fun fault => Blames text fault.problem)
    (fun result => after result.1 ∧ result.2.Within text) (step.run reading)

namespace Keeps

variable {α β : Type} {text : List Char} {step : Reader α} {after : α → Prop} {later : β → Prop}

theorem pure {value : α} (holds : after value) : Keeps text after (Pure.pure value) :=
  fun _ within => ⟨holds, within⟩

theorem bind {next : α → Reader β} (first : Keeps text after step)
    (second : ∀ value, after value → Keeps text later (next value)) :
    Keeps text later (step >>= next) := by
  intro reading within
  rw [StateT.run_bind]
  exact (first reading within).bind fun result holds => second _ holds.1 _ holds.2

theorem map {change : α → β} (keeps : Keeps text after step) :
    Keeps text (fun _ => True) (change <$> step) := by
  rw [← bind_pure_comp]
  exact keeps.bind fun _ _ => pure trivial

theorem get : Keeps text (fun reading => reading.Within text) get :=
  fun _ within => ⟨within, within⟩

theorem set {reading : Reading} (within : reading.Within text) :
    Keeps text (fun _ => True) (set reading : Reader PUnit) :=
  fun _ _ => ⟨trivial, within⟩

theorem modify {change : Reading → Reading}
    (keeps : ∀ reading, reading.Within text → (change reading).Within text) :
    Keeps text (fun _ => True) (modify change : Reader PUnit) :=
  fun reading within => ⟨trivial, keeps reading within⟩

theorem failAt {problem : Problem} (blames : Blames text problem) (position : Nat) :
    Keeps text after (Reader.failAt problem position) :=
  fun _ _ => blames

theorem failPlain {problem : Problem} (blames : Blames text problem) :
    Keeps text after (Reader.failPlain problem) :=
  fun _ _ => blames

theorem failBefore {problem : Problem} (blames : Blames text problem) (back : Nat) :
    Keeps text after (Reader.failBefore problem back) :=
  get.bind fun _ _ => failAt blames _

theorem ite {test : Prop} [Decidable test] {other : Reader α}
    (positive : test → Keeps text after step) (negative : ¬test → Keeps text after other) :
    Keeps text after (if test then step else other) := by
  split
  next holds => exact positive holds
  next fails => exact negative fails

theorem fail {failing : Reader α} {rest : α → Reader β}
    (fails : Keeps text (fun _ => False) failing) : Keeps text later (failing >>= rest) :=
  fails.bind fun _ impossible => impossible.elim

/-- A step that fails where a test holds, and what follows where it does not. -/
theorem guard {test : Prop} [Decidable test] {failing : Reader PUnit} {rest : Reader β}
    (fails : test → Keeps text (fun _ => False) failing)
    (continues : ¬test → Keeps text later rest) :
    Keeps text later (if test then failing >>= fun _ => rest else rest) :=
  ite (fun holds => (fails holds).fail) continues

/-- Two ways to go on that lead to the same place. -/
theorem join {test : Prop} [Decidable test] {other : Reader α} {rest : α → Reader β}
    (after : α → Prop) (positive : test → Keeps text after step)
    (negative : ¬test → Keeps text after other)
    (continues : ∀ value, after value → Keeps text later (rest value)) :
    Keeps text later (if test then step >>= rest else other >>= rest) :=
  ite (fun holds => (positive holds).bind continues) fun fails => (negative fails).bind continues

end Keeps

variable {text : List Char}

/-- The characters of a token stand in a text. -/
abbrev Inside (text token : List Char) : Prop := token ⊆ text

/-! ## Tokens -/

/-- The reader goes on by the next token. -/
theorem meets_advance {reading : Reading} (within : reading.Within text) :
    Meets (fun fault => Blames text fault.problem)
      (fun result => result.2.next ++ result.2.rest = reading.rest ∧ result.2.Within text)
      (Reader.advance.run reading) := by
  have behind : reading.rest <:+ text := (List.suffix_append _ _).trans within.behind
  unfold Reader.advance
  rw [StateT.run_bind]
  change Meets _ _ (StateT.run _ reading)
  split
  next => exact ⟨rfl, behind, within.modes⟩
  next => exact trivial
  next c rest same =>
    change reading.rest = _ at same
    rw [same] at behind
    exact ⟨same.symm, behind, within.modes⟩
  next c rest _ same =>
    change reading.rest = _ at same
    rw [same] at behind
    exact ⟨same.symm, behind, within.modes⟩

theorem keeps_advance : Keeps text (fun _ => True) Reader.advance :=
  fun _ within => (meets_advance within).imp (fun _ => id) fun _ holds => ⟨trivial, holds.2⟩

theorem keeps_peek : Keeps text (Inside text) Reader.peek := by
  unfold Reader.peek
  refine Keeps.get.bind fun reading within => .pure fun c member => ?_
  exact within.behind.subset (List.mem_append_left _ member)

theorem keeps_position : Keeps text (fun _ => True) Reader.position :=
  Keeps.get.bind fun _ _ => .pure trivial

theorem keeps_tokensLeft : Keeps text (fun _ => True) Reader.tokensLeft :=
  Keeps.get.bind fun _ _ => .pure trivial

theorem keeps_take : Keeps text (Inside text) Reader.take :=
  keeps_peek.bind fun _ inside => keeps_advance.bind fun _ _ => .pure inside

theorem keeps_takeIf (c : Char) : Keeps text (fun _ => True) (Reader.takeIf c) :=
  keeps_peek.bind fun _ _ => .ite (fun _ => keeps_advance.bind fun _ _ => .pure trivial)
    fun _ => .pure trivial

/-- What is taken stands in front of what is left. -/
theorem meets_takeWhile (kind : Char → Bool) (count : Nat) {reading : Reading}
    (within : reading.Within text) :
    Meets (fun fault => Blames text fault.problem)
      (fun result => (result.1.all kind ∧
        result.1 ++ (result.2.next ++ result.2.rest) = reading.next ++ reading.rest) ∧
          result.2.Within text) ((Reader.takeWhile kind count).run reading) := by
  induction count generalizing reading with
  | zero => exact ⟨⟨rfl, rfl⟩, within⟩
  | succ count ih =>
      unfold Reader.takeWhile
      rw [StateT.run_bind]
      change Meets _ _ (StateT.run _ reading)
      split
      next c isNext =>
        change reading.next = [c] at isNext
        split
        next isKind =>
          rw [StateT.run_bind]
          refine (meets_advance within).bind fun advanced ⟨left, isWithin⟩ => ?_
          rw [StateT.run_bind]
          refine (ih isWithin).bind fun result ⟨⟨areKind, same⟩, isWithin⟩ => ?_
          refine ⟨⟨?_, ?_⟩, isWithin⟩
          · rw [List.all_cons, isKind, areKind]
            rfl
          · rw [List.cons_append, same, left, isNext]
            rfl
        next => exact ⟨⟨rfl, rfl⟩, within⟩
      next => exact ⟨⟨rfl, rfl⟩, within⟩

/-- What a step takes stands in the text, one character after the other, and is all of a kind. -/
abbrev Taken (text : List Char) (kind : Char → Bool) (taken : List Char) : Prop :=
  taken <:+: text ∧ taken.all kind

theorem keeps_takeWhile (kind : Char → Bool) (count : Nat) :
    Keeps text (Taken text kind) (Reader.takeWhile kind count) := by
  intro reading within
  refine (meets_takeWhile kind count within).imp (fun _ => id) ?_
  rintro ⟨taken, left⟩ ⟨⟨areKind, same⟩, isWithin⟩
  have behind : taken ++ (left.next ++ left.rest) <:+ text := by
    rw [same]
    exact within.behind
  exact ⟨⟨(List.prefix_append _ _).isInfix.trans behind.isInfix, areKind⟩, isWithin⟩

theorem keeps_takeAll (kind : Char → Bool) :
    Keeps text (Taken text kind) (Reader.takeAll kind) :=
  keeps_tokensLeft.bind fun _ _ => keeps_takeWhile kind _

theorem keeps_skipPast (mark : Char) (count : Nat) :
    Keeps text (fun _ => True) (Reader.skipPast mark count) := by
  induction count with
  | zero => exact .pure trivial
  | succ count ih =>
      unfold Reader.skipPast
      refine keeps_take.bind fun token _ => ?_
      split
      next => exact .pure trivial
      next => exact .ite (fun _ => .pure trivial) fun _ => ih

theorem keeps_nameFrom (mark : Char) (what : String) (taken : List Char) (count : Nat) :
    Keeps text (fun _ => True) (Reader.nameFrom mark what taken count) := by
  induction count generalizing taken with
  | zero => exact .failBefore (by trivial) _
  | succ count ih =>
      unfold Reader.nameFrom
      refine keeps_take.bind fun token _ => ?_
      split
      next => exact .ite (fun _ => .failBefore (by trivial) _) fun _ => .failBefore (by trivial) _
      next =>
        refine .ite (fun _ => ?_) fun _ => ih _
        exact .ite (fun _ => .failBefore (by trivial) _) fun _ => .pure trivial

theorem keeps_name (mark : Char) (what : String) :
    Keeps text (fun _ => True) (Reader.name mark what) :=
  keeps_tokensLeft.bind fun _ _ => keeps_nameFrom mark what [] _

/-! ## Escapes and sets -/

theorem keeps_hexCode (letter : Char) {width : Nat} (narrow : width ≤ 8) :
    Keeps text (fun _ => True) (hexCode letter width) := by
  unfold hexCode
  refine (keeps_takeWhile _ _).bind fun digits taken => ?_
  dsimp only
  refine .guard (fun _ => .failBefore (by trivial) _) fun full => ?_
  refine .guard (fun huge => .failPlain ⟨digits, taken.1, taken.2, by omega, huge⟩) fun _ => ?_
  exact .guard (fun _ => .failBefore (by trivial) _) fun _ => .pure trivial

theorem keeps_namedCode : Keeps text (fun _ => True) namedCode := by
  unfold namedCode
  refine (keeps_takeIf _).bind fun opened _ => ?_
  dsimp only
  refine .guard (fun _ => .failBefore (by trivial) _) fun _ => ?_
  refine (keeps_name _ _).bind fun name _ => ?_
  split
  next => exact .pure trivial
  next => exact .failBefore (by trivial) _

theorem keeps_code? (letter : Char) : Keeps text (fun _ => True) (code? letter) := by
  unfold code?
  split
  next => exact (keeps_hexCode _ (by decide)).map
  next => exact (keeps_hexCode _ (by decide)).map
  next => exact (keeps_hexCode _ (by decide)).map
  next => exact keeps_namedCode.map
  next => exact .pure trivial

theorem keeps_octalCode (digits : List Char) : Keeps text (fun _ => True) (octalCode digits) := by
  unfold octalCode
  dsimp only
  exact .guard (fun _ => .failBefore (by trivial) _) fun _ => .pure trivial

theorem keeps_plainCode (c : Char) : Keeps text (fun _ => True) (plainCode c) := by
  unfold plainCode
  dsimp only
  exact .guard (fun _ => .failBefore (by trivial) _) fun _ => .pure trivial

theorem keeps_memberEscape (c : Char) : Keeps text (fun _ => True) (memberEscape c) := by
  unfold memberEscape
  split
  next => exact .pure trivial
  next =>
  split
  next => exact .pure trivial
  next =>
  refine (keeps_code? c).bind fun code _ => ?_
  split
  next => exact .pure trivial
  next =>
  refine .ite (fun _ => ?_) fun _ => (keeps_plainCode c).bind fun _ _ => .pure trivial
  refine (keeps_takeWhile _ _).bind fun digits _ => ?_
  exact (keeps_octalCode _).bind fun _ _ => .pure trivial

theorem keeps_checkLookbehind (number : Nat) :
    Keeps text (fun _ => True) (checkLookbehind number) := by
  unfold checkLookbehind
  refine Keeps.get.bind fun reading _ => ?_
  split
  next => exact .pure trivial
  next =>
    dsimp only
    refine .guard (fun _ => .failBefore (by trivial) _) fun _ => ?_
    exact .ite (fun _ => .failBefore (by trivial) _) fun _ => .pure trivial

theorem keeps_reference (digits : List Char) :
    Keeps text (fun _ => True) (reference digits) := by
  unfold reference
  dsimp only
  refine Keeps.get.bind fun reading _ => ?_
  refine .guard (fun _ => .failBefore (by trivial) _) fun _ => ?_
  refine .guard (fun _ => .failBefore (by trivial) _) fun _ => ?_
  exact (keeps_checkLookbehind _).bind fun _ _ => .pure trivial

theorem keeps_numberEscape (c : Char) : Keeps text (fun _ => True) (numberEscape c) := by
  unfold numberEscape
  refine (keeps_takeWhile _ _).bind fun digits _ => ?_
  split
  next second =>
    refine .ite (fun _ => ?_) fun _ => keeps_reference _
    refine (keeps_takeWhile _ _).bind fun digits _ => ?_
    split
    next => exact (keeps_octalCode _).bind fun _ _ => .pure trivial
    next => exact keeps_reference _
  next => exact keeps_reference _

theorem keeps_nodeEscape (c : Char) : Keeps text (fun _ => True) (nodeEscape c) := by
  unfold nodeEscape
  split
  next => exact .pure trivial
  next =>
  split
  next => exact .pure trivial
  next =>
  split
  next => exact .pure trivial
  next =>
  refine (keeps_code? c).bind fun code _ => ?_
  split
  next => exact .pure trivial
  next =>
  refine .ite (fun _ => (keeps_takeWhile _ _).bind fun _ _ => .pure trivial) fun _ => ?_
  exact .ite (fun _ => keeps_numberEscape c) fun _ => (keeps_plainCode c).bind fun _ _ =>
    .pure trivial

theorem keeps_memberOf (token : List Char) : Keeps text (fun _ => True) (memberOf token) := by
  unfold memberOf
  split
  next => exact .pure trivial
  next => exact keeps_memberEscape _
  next => exact .failBefore (by trivial) _

theorem keeps_setMembers (start : Nat) (members : List Member) (count : Nat) :
    Keeps text (fun _ => True) (setMembers start members count) := by
  induction count generalizing members with
  | zero => exact .failAt (by trivial) _
  | succ count ih =>
      unfold setMembers
      refine keeps_take.bind fun first _ => ?_
      dsimp only
      refine .guard (fun _ => .failAt (by trivial) _) fun _ => ?_
      refine .ite (fun _ => .pure trivial) fun _ => ?_
      refine (keeps_memberOf first).bind fun member _ => ?_
      refine (keeps_takeIf _).bind fun isRange _ => ?_
      refine .ite (fun _ => ?_) fun _ => ih _
      refine keeps_take.bind fun last _ => ?_
      refine .guard (fun _ => .failAt (by trivial) _) fun _ => ?_
      refine .ite (fun _ => .pure trivial) fun _ => ?_
      refine (keeps_memberOf last).bind fun other _ => ?_
      split
      next => exact .guard (fun _ => .failBefore (by trivial) _) fun _ => ih _
      next => exact .failBefore (by trivial) _

theorem keeps_characterSet : Keeps text (fun _ => True) characterSet :=
  keeps_position.bind fun _ _ => (keeps_takeIf _).bind fun _ _ =>
    keeps_tokensLeft.bind fun _ _ => (keeps_setMembers _ _ _).bind fun _ _ => .pure trivial

/-! ## Modes -/

theorem Modes.within_none : Modes.none.Within text where
  ascii impossible := Bool.noConfusion impossible
  unicode impossible := Bool.noConfusion impossible

theorem Modes.Within.join {left right : Modes} (first : left.Within text)
    (second : right.Within text) : (left.join right).Within text where
  ascii named := (Bool.or_eq_true_iff.1 named).elim first.ascii second.ascii
  unicode named := (Bool.or_eq_true_iff.1 named).elim first.unicode second.unicode

/-- A letter names the alphabet that starts with it. -/
theorem Modes.within_of_letter {token : List Char} {modes : Modes} (inside : Inside text token)
    (letter : token.head?.bind Modes.ofLetter? = some modes) : modes.Within text := by
  obtain ⟨c, first, letter⟩ := Option.bind_eq_some_iff.1 letter
  have member : c ∈ text := inside (List.mem_of_head? first)
  unfold ofLetter? at letter
  split at letter <;> cases letter <;> constructor <;> intro named <;>
    first | exact member | cases named

theorem keeps_flagOr (marks : List (List Char)) (what : String) :
    Keeps text (Inside text) (flagOr marks what) := by
  unfold flagOr
  refine keeps_take.bind fun token inside => ?_
  dsimp only
  refine .guard (fun _ => .failBefore (by trivial) _) fun _ => ?_
  refine .ite (fun _ => .pure inside) fun _ => .failBefore ?_ _
  unfold flagProblem
  split
  next => split <;> trivial
  next => trivial

theorem keeps_flagsOn {added : Modes} {token : List Char} (count : Nat)
    (within : added.Within text) (inside : Inside text token) :
    Keeps text (fun result => result.1.Within text) (flagsOn added token count) := by
  induction count generalizing added token with
  | zero => exact .failBefore (by trivial) _
  | succ count ih =>
      unfold flagsOn
      split
      next => exact .failBefore (by trivial) _
      next mode letter =>
        have joined := within.join (Modes.within_of_letter inside letter)
        dsimp only
        refine .guard (fun _ => .failBefore (by trivial) _) fun _ => ?_
        refine (keeps_flagOr _ _).bind fun token inside => ?_
        exact .ite (fun _ => ih joined inside) fun _ => .pure joined

theorem keeps_flagsOff (removed : Modes) (token : List Char) (count : Nat) :
    Keeps text (fun _ => True) (flagsOff removed token count) := by
  induction count generalizing removed token with
  | zero => exact .failBefore (by trivial) _
  | succ count ih =>
      unfold flagsOff
      split
      next => exact .failBefore (by trivial) _
      next =>
        dsimp only
        refine .guard (fun _ => .failBefore (by trivial) _) fun _ => ?_
        refine (keeps_flagOr _ _).bind fun token _ => ?_
        exact .ite (fun _ => ih _ _) fun _ => .pure trivial

theorem keeps_flags {token : List Char} (inside : Inside text token) :
    Keeps text (fun _ => True) (flags token) := by
  unfold flags
  refine keeps_tokensLeft.bind fun count _ => ?_
  dsimp only
  refine Keeps.join (fun result => result.1.Within text) ?_ ?_ ?_
  · exact fun _ => .pure Modes.within_none
  · exact fun _ => keeps_flagsOn count Modes.within_none inside
  intro found within
  refine .ite (fun _ => ?_) fun _ => ?_
  · refine Keeps.bind (Keeps.modify fun reading isWithin => ?_) fun _ _ => .pure trivial
    exact ⟨isWithin.behind, isWithin.modes.join within⟩
  · refine .guard (fun _ => .failBefore (by trivial) _) fun _ => ?_
    rw [← bind_assoc]
    refine Keeps.join (fun _ => True) ?_ ?_ ?_
    · exact fun _ => (keeps_flagOr _ _).bind fun _ _ => keeps_flagsOff _ _ _
    · exact fun _ => .pure trivial
    intro removed _
    refine .guard (fun _ => .failBefore (by trivial) _) fun _ => ?_
    exact .guard (fun _ => .failBefore (by trivial) _) fun _ => .pure trivial

/-! ## Groups -/

theorem keeps_groupName (mark : Char) : Keeps text (fun _ => True) (groupName mark) := by
  unfold groupName
  refine (keeps_name _ _).bind fun name _ => ?_
  dsimp only
  exact .guard (fun _ => .failBefore (by trivial) _) fun _ => .pure trivial

theorem keeps_groupNamed (name : List Char) : Keeps text (fun _ => True) (groupNamed name) := by
  unfold groupNamed
  refine Keeps.get.bind fun reading _ => ?_
  split
  next => exact .pure trivial
  next => exact .failBefore (by trivial) _

theorem keeps_namedReference : Keeps text (fun _ => True) namedReference := by
  unfold namedReference
  refine (keeps_groupName _).bind fun name _ => ?_
  refine (keeps_groupNamed name).bind fun number _ => Keeps.get.bind fun reading _ => ?_
  dsimp only
  refine .guard (fun _ => .failBefore (by trivial) _) fun _ => ?_
  exact (keeps_checkLookbehind number).bind fun _ _ => .pure trivial

theorem keeps_openGroup (name : Option (List Char)) :
    Keeps text (fun _ => True) (openGroup name) := by
  unfold openGroup
  refine Keeps.get.bind fun reading within => ?_
  dsimp only
  split
  next => exact Keeps.bind (.set ⟨within.behind, within.modes⟩) fun _ _ => .pure trivial
  next name =>
    split
    next => exact .fail (.failBefore (by trivial) _)
    next => exact Keeps.bind (.set ⟨within.behind, within.modes⟩) fun _ _ => .pure trivial

theorem keeps_closeGroup (number : Nat) (body : List Node) :
    Keeps text (fun _ => True) (closeGroup number body) :=
  .modify fun _ within => ⟨within.behind, within.modes⟩

theorem keeps_conditionGroup : Keeps text (fun _ => True) conditionGroup := by
  unfold conditionGroup
  refine (keeps_name _ _).bind fun name _ => ?_
  have found (number : Nat) : Keeps text (fun _ => True)
      (checkLookbehind number >>= fun _ => pure number) :=
    (keeps_checkLookbehind number).bind fun _ _ => .pure trivial
  dsimp only
  refine .ite (fun _ => (keeps_groupNamed name).bind fun number _ => found number) fun _ => ?_
  split
  next => exact .fail (.failBefore (by trivial) _)
  next value _ =>
    refine .guard (fun _ => .failBefore (by trivial) _) fun _ => ?_
    refine .guard (fun _ => .failBefore (by trivial) _) fun _ => ?_
    refine .guard (fun _ => .failBefore (by trivial) _) fun _ => ?_
    refine keeps_position.bind fun place _ => ?_
    refine Keeps.bind (Keeps.modify fun reading within => ?_) fun _ _ =>
      Keeps.bind (.pure trivial) fun number (_ : True) => found number
    split
    · exact within
    · exact ⟨within.behind, within.modes⟩

/-! ## Repetitions -/

theorem keeps_bound {digits : List Char} (taken : Taken text Char.isDigit digits) :
    Keeps text (fun _ => True) (bound digits) := by
  unfold bound
  dsimp only
  refine .guard (fun long => ?_) fun _ => .guard (fun large => ?_) fun _ => .pure trivial
  · exact .failPlain ⟨digits, taken.1, taken.2, rfl, long⟩
  · exact .failPlain ⟨digits, taken.1, taken.2, large⟩

theorem keeps_braceBounds : Keeps text (fun _ => True) braceBounds := by
  unfold braceBounds
  refine Keeps.get.bind fun start within => keeps_peek.bind fun token _ => ?_
  dsimp only
  refine .ite (fun _ => .pure trivial) fun _ => ?_
  refine (keeps_takeAll _).bind fun low isLow => ?_
  refine (keeps_takeIf _).bind fun comma _ => ?_
  refine Keeps.join (Taken text Char.isDigit) ?_ ?_ ?_
  · exact fun _ => keeps_takeAll _
  · exact fun _ => .pure isLow
  intro high isHigh
  refine (keeps_takeIf _).bind fun closed _ => ?_
  refine .ite (fun _ => Keeps.bind (.set within) fun _ _ => .pure trivial) fun _ => ?_
  refine Keeps.join (fun _ => True) ?_ ?_ ?_
  · exact fun _ => .pure trivial
  · exact fun _ => keeps_bound isLow
  intro least _
  refine .ite (fun _ => .pure trivial) fun _ => ?_
  refine (keeps_bound isHigh).bind fun most _ => ?_
  exact .guard (fun _ => .failAt (by trivial) _) fun _ => .pure trivial

theorem keeps_bounds (mark : Char) : Keeps text (fun _ => True) (bounds mark) := by
  unfold bounds
  split
  next => exact .pure trivial
  next => exact .pure trivial
  next => exact .pure trivial
  next => exact keeps_braceBounds

theorem keeps_repetition (start least : Nat) (most : Option Nat) (nodes : List Node) :
    Keeps text (fun _ => True) (repetition start least most nodes) := by
  unfold repetition
  split
  next => exact .failAt (by trivial) _
  next => exact .failAt (by trivial) _
  next => exact .failAt (by trivial) _
  next =>
    refine (keeps_takeIf _).bind fun isLazy _ => .ite (fun _ => .pure trivial) fun _ => ?_
    exact (keeps_takeIf _).bind fun _ _ => .ite (fun _ => .pure trivial) fun _ => .pure trivial

/-! ## Sequences -/

theorem keeps_closing (start : Nat) : Keeps text (fun _ => True) (closing start) := by
  unfold closing
  refine (keeps_takeIf _).bind fun closed _ => ?_
  exact .ite (fun _ => .failAt (by trivial) _) fun _ => .pure trivial

theorem keeps_extension (start : Nat) (atStart : Bool) :
    Keeps text (fun _ => True) (extension start atStart) := by
  unfold extension
  refine keeps_take.bind fun token inside => ?_
  split
  next => exact .failBefore (by trivial) _
  next =>
    refine (keeps_takeIf _).bind fun _ _ => .ite (fun _ => ?_) fun _ => ?_
    · exact (keeps_groupName _).bind fun _ _ => .pure trivial
    refine (keeps_takeIf _).bind fun _ _ => .ite (fun _ => ?_) fun _ => ?_
    · exact keeps_namedReference.bind fun _ _ => .pure trivial
    refine keeps_take.bind fun _ _ => ?_
    dsimp only
    exact .guard (fun _ => .failBefore (by trivial) _) fun _ => .failBefore (by trivial) _
  next => exact .pure trivial
  next =>
    refine keeps_peek.bind fun _ _ => ?_
    dsimp only
    refine .guard (fun _ => .failAt (by trivial) _) fun _ => ?_
    refine keeps_tokensLeft.bind fun _ _ => (keeps_skipPast _ _).bind fun _ _ => ?_
    exact .ite (fun _ => .pure trivial) fun _ => .failAt (by trivial) _
  next => exact .pure trivial
  next => exact .pure trivial
  next =>
    refine keeps_take.bind fun _ _ => ?_
    split
    next => exact .failBefore (by trivial) _
    next => exact .pure trivial
    next => exact .pure trivial
    next => exact .failBefore (by trivial) _
  next => exact keeps_conditionGroup.bind fun _ _ => .pure trivial
  next => exact .pure trivial
  next =>
    refine .ite (fun _ => ?_) fun _ => .failBefore (by trivial) _
    refine (keeps_flags inside).bind fun found _ => ?_
    split
    next => exact .pure trivial
    next =>
      dsimp only
      exact .guard (fun _ => .failAt (by trivial) _) fun _ => .pure trivial

/-- All parts of a pattern that are read within a budget stay in the text. -/
structure KeepsWithin (text : List Char) (budget : Nat) : Prop where
  alternatives (top spaced : Bool) :
    Keeps text (fun _ => True) (alternatives top spaced budget)
  branches (top spaced : Bool) : Keeps text (fun _ => True) (branches top spaced budget)
  sequence (spaced atStart : Bool) (nodes : List Node) :
    Keeps text (fun _ => True) (sequence spaced atStart nodes budget)
  group (spaced atStart : Bool) : Keeps text (fun _ => True) (group spaced atStart budget)

namespace KeepsWithin

variable {budget : Nat}

theorem alternatives_succ (within : KeepsWithin text budget) (top spaced : Bool) :
    Keeps text (fun _ => True) (Pattern.alternatives top spaced (budget + 1)) := by
  unfold Pattern.alternatives
  exact (within.sequence _ _ _).bind fun _ _ => (within.branches _ _).bind fun _ _ => .pure trivial

theorem branches_succ (within : KeepsWithin text budget) (top spaced : Bool) :
    Keeps text (fun _ => True) (Pattern.branches top spaced (budget + 1)) := by
  unfold Pattern.branches
  refine (keeps_takeIf _).bind fun _ _ => .ite (fun _ => .pure trivial) fun _ => ?_
  dsimp only
  have branch (spaced : Bool) : Keeps text (fun _ => True) (do
      let branch ← Pattern.sequence spaced false [] budget
      return branch :: (← Pattern.branches top spaced budget)) :=
    (within.sequence _ _ _).bind fun _ _ => (within.branches _ _).bind fun _ _ => .pure trivial
  refine .ite (fun _ => Keeps.get.bind fun reading _ => ?_) fun _ => ?_
  · exact Keeps.bind (.pure trivial) fun spaced (_ : True) => branch spaced
  · exact Keeps.bind (.pure trivial) fun spaced (_ : True) => branch spaced

theorem sequence_succ (within : KeepsWithin text budget) (spaced atStart : Bool)
    (nodes : List Node) :
    Keeps text (fun _ => True) (Pattern.sequence spaced atStart nodes (budget + 1)) := by
  unfold Pattern.sequence
  refine keeps_peek.bind fun token _ => ?_
  split
  next => exact .pure trivial
  next => exact .pure trivial
  next => exact .pure trivial
  next =>
    refine keeps_advance.bind fun _ _ => (keeps_nodeEscape _).bind fun _ _ => ?_
    exact within.sequence _ _ _
  next =>
    refine keeps_advance.bind fun _ _ => ?_
    dsimp only
    refine .ite (fun _ => within.sequence _ _ _) fun _ => .ite (fun _ => ?_) fun _ => ?_
    · exact keeps_tokensLeft.bind fun _ _ => (keeps_skipPast _ _).bind fun _ _ =>
        within.sequence _ _ _
    split
    next => exact keeps_characterSet.bind fun _ _ => within.sequence _ _ _
    next => exact within.sequence _ _ _
    next => exact within.sequence _ _ _
    next => exact within.sequence _ _ _
    next => exact (within.group _ _).bind fun _ _ => within.sequence _ _ _
    next =>
      refine .ite (fun _ => ?_) fun _ => within.sequence _ _ _
      refine keeps_position.bind fun start _ => (keeps_bounds _).bind fun found _ => ?_
      split
      next => exact within.sequence _ _ _
      next => exact (keeps_repetition _ _ _ _).bind fun _ _ => within.sequence _ _ _

theorem group_succ (within : KeepsWithin text budget) (spaced atStart : Bool) :
    Keeps text (fun _ => True) (Pattern.group spaced atStart (budget + 1)) := by
  unfold Pattern.group
  refine keeps_position.bind fun start _ => (keeps_takeIf _).bind fun _ _ => ?_
  dsimp only
  refine Keeps.join (fun _ => True) ?_ ?_ ?_
  · exact fun _ => keeps_extension _ _
  · exact fun _ => .pure trivial
  intro opening _
  split
  next => exact Keeps.get.bind fun _ _ => .pure trivial
  next => exact .pure trivial
  next =>
    refine (keeps_openGroup _).bind fun _ _ => (within.alternatives _ _).bind fun _ _ => ?_
    exact (keeps_closing _).bind fun _ _ => (keeps_closeGroup _ _).bind fun _ _ => .pure trivial
  next =>
    exact (within.alternatives _ _).bind fun _ _ => (keeps_closing _).bind fun _ _ => .pure trivial
  next =>
    exact (within.alternatives _ _).bind fun _ _ => (keeps_closing _).bind fun _ _ => .pure trivial
  next =>
    exact (within.alternatives _ _).bind fun _ _ => (keeps_closing _).bind fun _ _ => .pure trivial
  next =>
    refine Keeps.get.bind fun _ _ => Keeps.bind (Keeps.modify fun _ isWithin => ?_) fun _ _ => ?_
    · exact ⟨isWithin.behind, isWithin.modes⟩
    refine (within.alternatives _ _).bind fun _ _ =>
      Keeps.bind (Keeps.modify fun _ isWithin => ?_) fun _ _ => ?_
    · exact ⟨isWithin.behind, isWithin.modes⟩
    exact (keeps_closing _).bind fun _ _ => Keeps.get.bind fun _ _ => .pure trivial
  next =>
    refine (within.sequence _ _ _).bind fun yes _ => (keeps_takeIf _).bind fun _ _ => ?_
    refine Keeps.join (fun _ => True) ?_ ?_ ?_
    · exact fun _ => within.sequence _ _ _
    · exact fun _ => .pure trivial
    intro no _
    refine keeps_peek.bind fun _ _ => .guard (fun _ => .failBefore (by trivial) _) fun _ => ?_
    exact (keeps_closing _).bind fun _ _ => .pure trivial

end KeepsWithin

theorem keepsWithin (budget : Nat) : KeepsWithin text budget := by
  induction budget with
  | zero =>
      constructor <;> intros <;> exact .failBefore (by trivial) _
  | succ budget within =>
      exact ⟨within.alternatives_succ, within.branches_succ, within.sequence_succ,
        within.group_succ⟩

/-! ## Whole patterns -/

mutual

theorem blames_of_defect (modes : Modes) (node : Node) :
    ∀ problem ∈ node.defect? modes, Blames text problem := by
  cases node with
  | group number added removed body =>
      exact blames_of_sequenceDefect _ body
  | atomic body => exact blames_of_sequenceDefect _ body
  | ahead holds body => exact blames_of_sequenceDefect _ body
  | behind holds width body =>
      unfold Node.defect?
      split
      next => rintro _ ⟨⟩; trivial
      next =>
      split
      next => rintro _ ⟨⟩; trivial
      next => exact blames_of_sequenceDefect _ body
  | conditional number yes no =>
      intro problem found
      rcases Option.or_eq_some_iff.1 found with found | ⟨_, found⟩
      · exact blames_of_sequenceDefect _ yes _ found
      · exact blames_of_sequenceDefect _ no _ found
  | repeated greed least most body =>
      unfold Node.defect?
      split
      next => rintro _ ⟨⟩; trivial
      next => exact blames_of_sequenceDefect _ body
  | choice branches => exact blames_of_choiceDefect _ branches
  | _ => rintro _ ⟨⟩

theorem blames_of_sequenceDefect (modes : Modes) (nodes : List Node) :
    ∀ problem ∈ sequenceDefect? modes nodes, Blames text problem := by
  cases nodes with
  | nil => rintro _ ⟨⟩
  | cons node rest =>
      intro problem found
      rcases Option.or_eq_some_iff.1 found with found | ⟨_, found⟩
      · exact blames_of_defect _ node _ found
      · exact blames_of_sequenceDefect _ rest _ found

theorem blames_of_choiceDefect (modes : Modes) (branches : List (List Node)) :
    ∀ problem ∈ choiceDefect? modes branches, Blames text problem := by
  cases branches with
  | nil => rintro _ ⟨⟩
  | cons branch rest =>
      intro problem found
      rcases Option.or_eq_some_iff.1 found with found | ⟨_, found⟩
      · exact blames_of_sequenceDefect _ branch _ found
      · exact blames_of_choiceDefect _ rest _ found

end

theorem keeps_whole (budget : Nat) : Keeps text (fun _ => True) (whole budget) := by
  unfold whole
  refine keeps_advance.bind fun _ _ => ?_
  refine ((keepsWithin budget).alternatives _ _).bind fun nodes _ => ?_
  refine Keeps.get.bind fun reading within => ?_
  dsimp only
  refine .guard (fun named => ?_) fun _ => .guard (fun _ => .failBefore (by trivial) _) fun _ => ?_
  · obtain ⟨ascii, unicode⟩ := Bool.and_eq_true_iff.1 named
    exact .failPlain ⟨within.modes.ascii ascii, within.modes.unicode unicode⟩
  split
  next => exact .fail (.failAt (by trivial) _)
  next =>
  split
  next problem found => exact .failPlain (blames_of_sequenceDefect _ _ problem found)
  next => exact .pure trivial

/-- A pattern that is refused for its numbers or its modes holds what it is refused for. -/
theorem blames_of_read {text : String} {fault : Fault} (failed : read text = .error fault) :
    Blames text.toList fault.problem := by
  have start : Reading.Within text.toList ⟨[], text.toList, 0, .none, [], [none], none, []⟩ :=
    ⟨List.suffix_refl _, Modes.within_none⟩
  have meets : Meets (fun fault => Blames text.toList fault.problem) (fun _ => True) (read text) :=
    (keeps_whole _ _ start).map fun _ _ => trivial
  exact meets.of_error failed

end RouteTypes.Pattern
