import RouteTypes.Proofs.Json.Expressible
import RouteTypes.Proofs.Outcome

/-!
# Integers that are too long

A text that is no JSON is reported with the place of the problem. The one other reason not to read
a text is an integer that is too long, and it is the first thing that the reader cannot read
(`read_eq_number_iff`): whatever stands before it is a part of a value so far.

The readers are told how far they may go. Where this is enough (`settled`), they can be described
without it (`valueAt`, `itemsAt`, `membersAt`).
-/

namespace RouteTypes.Json

variable {text rest : List Char} {α : Type}

/-! ## What readers leave -/

/-- The text is no JSON. -/
def IsMalformed : Stop → Prop
  | .malformed _ _ => True
  | .number _ => False

/-- A reader leaves an end of a text, or shows that the text is no JSON. -/
abbrev Leaves {α : Type} (text : List Char) (step : Except Stop (α × List Char)) : Prop :=
  Meets IsMalformed (fun read => read.2 <:+ text) step

theorem leaves_stop (problem : Problem) (rest : List Char) :
    Leaves text (stop problem rest : Except Stop (α × List Char)) :=
  trivial

theorem skipSpace_suffix (text : List Char) : skipSpace text <:+ text :=
  List.dropWhile_suffix _

theorem suffix_of_cons {c : Char} (inside : c :: rest <:+ text) : rest <:+ text :=
  (List.suffix_cons c rest).trans inside

theorem suffix_of_skipSpace {c : Char} {behind : List Char}
    (skipped : skipSpace text = c :: behind) : behind <:+ text :=
  suffix_of_cons (skipped ▸ skipSpace_suffix text)

theorem suffix_of_hexFour {code : Nat} {behind : List Char}
    (found : hexFour? rest = some (code, behind)) (inside : rest <:+ text) : behind <:+ text := by
  unfold hexFour? at found
  split at found
  next =>
    simp only [Option.bind_eq_bind, Option.bind_eq_some_iff] at found
    obtain ⟨_, _, _, _, _, _, _, _, last⟩ := found
    cases last
    exact suffix_of_cons (suffix_of_cons (suffix_of_cons (suffix_of_cons inside)))
  next => cases found

theorem leaves_readUnicode (inside : rest <:+ text) : Leaves text (readUnicode rest) := by
  unfold readUnicode
  split
  next => exact leaves_stop _ _
  next => exact leaves_stop _ _
  next code behind found =>
    have after := suffix_of_hexFour found inside
    split
    next =>
      split
      next more =>
        split
        next => exact after
        next =>
          split
          next => exact leaves_stop _ _
          next foundLow =>
            split
            next => exact suffix_of_hexFour foundLow (suffix_of_cons (suffix_of_cons after))
            next => exact after
      next => exact after
    next => exact after

theorem leaves_readPoints (opening fuel : Nat) (inside : rest <:+ text) :
    Leaves text (readPoints opening fuel rest) := by
  induction fuel generalizing rest with
  | zero => trivial
  | succ fuel ih =>
      rw [readPoints.eq_def]
      dsimp only
      split
      next => trivial
      next => trivial
      next => exact suffix_of_cons inside
      next same =>
        cases same
        split
        next => trivial
        next =>
          refine (leaves_readUnicode (suffix_of_cons (suffix_of_cons inside))).bind ?_
          intro point after
          refine (ih after).bind ?_
          exact fun _ after => after
        next =>
          split
          next => exact leaves_stop _ _
          next =>
            refine (ih (suffix_of_cons (suffix_of_cons inside))).bind ?_
            exact fun _ after => after
      next same =>
        cases same
        split
        next => exact leaves_stop _ _
        next =>
          refine (ih (suffix_of_cons inside)).bind ?_
          exact fun _ after => after

theorem leaves_readString (text : List Char) : Leaves text (readString text) :=
  (leaves_readPoints _ _ List.suffix_rfl).bind fun _ after => after

/-! ## Numbers -/

theorem suffix_spanDigits (inside : rest <:+ text) : (spanDigits rest).2 <:+ text :=
  (List.dropWhile_suffix _).trans inside

theorem append_of_wholeDigits {read : List Char × List Char}
    (found : wholeDigits rest = some read) : read.1 ++ read.2 = rest := by
  unfold wholeDigits at found
  split at found
  next =>
    cases found
    rfl
  next =>
    split at found
    next =>
      cases found
      exact List.takeWhile_append_dropWhile
    next => cases found
  next => cases found

theorem ne_nil_of_wholeDigits {read : List Char × List Char}
    (found : wholeDigits rest = some read) : read.1 ≠ [] := by
  unfold wholeDigits at found
  split at found
  next =>
    cases found
    simp
  next =>
    split at found
    next digit =>
      cases found
      simp [spanDigits, digit]
    next => cases found
  next => cases found

theorem suffix_fractionDigits (inside : rest <:+ text) : (fractionDigits rest).2 <:+ text := by
  unfold fractionDigits
  split
  next =>
    split
    next => exact suffix_spanDigits (suffix_of_cons inside)
    next => exact inside
  next => exact inside

theorem suffix_splitSign (inside : rest <:+ text) : (Number.splitSign rest).2 <:+ text := by
  unfold Number.splitSign
  split
  next => exact suffix_of_cons inside
  next => exact suffix_of_cons inside
  next => exact inside

theorem suffix_exponentPart (inside : rest <:+ text) : (exponentPart rest).2 <:+ text := by
  unfold exponentPart
  split
  next =>
    split
    next =>
      dsimp only
      split
      next => exact inside
      next spanned =>
        have after := suffix_spanDigits (suffix_splitSign (suffix_of_cons inside))
        rw [spanned] at after
        exact after
    next => exact inside
  next => exact inside

/-- The digits at the front of a text, where no more of them follow. -/
theorem spanDigits_append_of_head {digits : List Char} (areDigits : ∀ c ∈ digits, isDigit c)
    (ends : ∀ c ∈ rest.head?, isDigit c = false) :
    spanDigits (digits ++ rest) = (digits, rest) := by
  have left : rest.takeWhile isDigit = [] ∧ rest.dropWhile isDigit = rest := by
    cases rest with
    | nil => exact ⟨rfl, rfl⟩
    | cons c later =>
        have notDigit := ends c rfl
        simp [notDigit]
  rw [spanDigits, List.takeWhile_append_of_pos areDigits, List.dropWhile_append_of_pos areDigits,
    left.1, left.2, List.append_nil]

/-- More digits than one are read as far as they go, and do not begin with a zero. -/
theorem span_of_wholeDigits {whole : List Char} (found : wholeDigits text = some (whole, rest))
    (several : 1 < whole.length) :
    ∃ first later, text = first :: later ∧ first ≠ '0' ∧ isDigit first ∧
      spanDigits text = (whole, rest) := by
  cases text with
  | nil => cases found
  | cons first later =>
      by_cases zero : first = '0'
      · subst zero
        cases found
        exact absurd several (by decide)
      · rw [wholeDigits_cons zero] at found
        split at found
        next digit => exact ⟨first, later, rfl, zero, digit, Option.some.inj found⟩
        next => cases found

/-- At the front of a text stands an integer of so many digits, more than may be: neither more
digits nor a fraction nor an exponent follow. -/
inductive LongInteger : Nat → List Char → Prop where
  | intro (negative : Bool) {first : Char} {digits rest : List Char} (notZero : first ≠ '0')
      (areDigits : ∀ c ∈ first :: digits, isDigit c) (ends : ∀ c ∈ rest.head?, isDigit c = false)
      (noFraction : (fractionDigits rest).1 = []) (noExponent : (exponentPart rest).1 = none)
      (long : Number.maxDigits < (first :: digits).length) :
      LongInteger (first :: digits).length (withSign negative (first :: digits ++ rest))

theorem fractionDigits_of_nil (none : (fractionDigits text).1 = []) :
    fractionDigits text = ([], text) := by
  unfold fractionDigits at none ⊢
  split
  next =>
    split
    next digit => simp [digit, spanDigits] at none
    next => rfl
  next => rfl

theorem number_eq_error_iff {negative : Bool} {whole fraction : List Char} {exponent : Option Int}
    {stop : Stop} :
    number negative whole fraction exponent = .error stop ↔
      fraction = [] ∧ exponent = none ∧ Number.maxDigits < whole.length ∧
        stop = .number (.tooLong whole.length) := by
  unfold number
  split
  next isInteger =>
    simp only [Bool.and_eq_true, List.isEmpty_iff, Option.isNone_iff_eq_none] at isInteger
    split
    next long => simp [isInteger, long, eq_comm]
    next short => simp [short]
  next notInteger =>
    simp only [Bool.and_eq_true, List.isEmpty_iff, Option.isNone_iff_eq_none] at notInteger
    constructor
    · nofun
    · exact fun ⟨noFraction, noExponent, _⟩ => absurd ⟨noFraction, noExponent⟩ notInteger

theorem readNumber_eq_error_iff {negative : Bool} {stop : Stop} :
    readNumber negative text = some (.error stop) ↔
      ∃ whole behind, wholeDigits text = some (whole, behind) ∧
        number negative whole (fractionDigits behind).1
          (exponentPart (fractionDigits behind).2).1 = .error stop := by
  rw [readNumber, Option.map_eq_some_iff, Prod.exists]
  refine exists_congr fun whole => exists_congr fun behind => and_congr_right fun _ => ?_
  refine (@except_bind_eq_error _ _ _ _ (fun scalar => .ok (scalar, _)) _).trans (or_iff_left ?_)
  rintro ⟨_, _, ⟨⟩⟩

theorem readNumber_long (negative : Bool) {first : Char} {digits : List Char}
    (notZero : first ≠ '0') (areDigits : ∀ c ∈ first :: digits, isDigit c)
    (ends : ∀ c ∈ rest.head?, isDigit c = false) (noFraction : (fractionDigits rest).1 = [])
    (noExponent : (exponentPart rest).1 = none)
    (long : Number.maxDigits < (first :: digits).length) :
    readNumber negative (first :: digits ++ rest) =
      some (.error (.number (.tooLong (first :: digits).length))) := by
  have whole : wholeDigits (first :: digits ++ rest) = some (first :: digits, rest) := by
    rw [List.cons_append, wholeDigits_cons notZero, if_pos (areDigits _ List.mem_cons_self),
      ← List.cons_append, spanDigits_append_of_head areDigits ends]
  refine readNumber_eq_error_iff.2 ⟨_, _, whole, ?_⟩
  rw [fractionDigits_of_nil noFraction, noExponent]
  exact number_eq_error_iff.2 ⟨rfl, rfl, long, rfl⟩

theorem longInteger_of_readNumber {negative : Bool} {fault : Number.Fault}
    (failed : readNumber negative text = some (.error (.number fault))) :
    ∃ count, LongInteger count (withSign negative text) ∧ fault = .tooLong count := by
  obtain ⟨whole, behind, isWhole, made⟩ := readNumber_eq_error_iff.1 failed
  obtain ⟨noFraction, noExponent, long, same⟩ := number_eq_error_iff.1 made
  rw [fractionDigits_of_nil noFraction] at noExponent
  have several : 1 < whole.length := Nat.lt_trans (by decide) long
  obtain ⟨first, later, rfl, notZero, digit, spanned⟩ := span_of_wholeDigits isWhole several
  have parts : whole ++ behind = first :: later := append_of_wholeDigits isWhole
  obtain ⟨digits, rfl⟩ : ∃ digits, whole = first :: digits := by
    cases whole with
    | nil => cases several
    | cons other digits => exact ⟨digits, by rw [(List.cons.inj parts).1]⟩
  have ends : ∀ c ∈ behind.head?, isDigit c = false := by
    have left : (first :: later).dropWhile isDigit = behind := congrArg Prod.snd spanned
    have stopped := List.head?_dropWhile_not isDigit (first :: later)
    rw [left] at stopped
    intro c isHead
    rw [Option.mem_def.1 isHead] at stopped
    exact stopped
  refine ⟨_, ?_, Stop.number.inj same⟩
  rw [← parts]
  exact .intro negative notZero (digits_of_wholeDigits isWhole) ends noFraction noExponent long

/-- The one scalar that looks like one and is still not read is an integer that is too long. -/
theorem readScalar_eq_number_iff {fault : Number.Fault} :
    readScalar text = .error (.number fault) ↔
      ∃ count, LongInteger count text ∧ fault = .tooLong count := by
  constructor
  · intro failed
    unfold readScalar at failed
    split at failed
    next => cases failed
    next =>
      split at failed
      next negative unsigned signed =>
        split at failed
        next result isNumber =>
          subst failed
          obtain same : text = withSign negative unsigned := by
            split at signed
            next =>
              cases signed
              rfl
            next =>
              cases signed
              rfl
          exact same ▸ longInteger_of_readNumber isNumber
        next => cases failed
  · rintro ⟨_, ⟨negative, notZero, areDigits, ends, noFraction, noExponent, long⟩, rfl⟩
    exact readScalar_withSign (areDigits _ List.mem_cons_self) negative _
      (readNumber_long negative notZero areDigits ends noFraction noExponent long)

/-! ## Progress -/

/-- What is left of a text when something was taken from its front. -/
structure ProperEnd (rest text : List Char) : Prop where
  isEnd : rest <:+ text
  shorter : rest.length < text.length

/-- A reader that gives a value has taken it from the front of the text. -/
abbrev Shortens {α : Type} (text : List Char) (step : Except Stop (α × List Char)) : Prop :=
  Meets (fun _ => True) (fun read => ProperEnd read.2 text) step

namespace ProperEnd

variable {behind : List Char} {c : Char}

theorem cons (inside : rest <:+ behind) : ProperEnd rest (c :: behind) :=
  ⟨inside.trans (List.suffix_cons c behind), Nat.lt_succ_of_le inside.length_le⟩

theorem within (proper : ProperEnd rest behind) (inside : behind <:+ text) : ProperEnd rest text :=
  ⟨proper.isEnd.trans inside, Nat.lt_of_lt_of_le proper.shorter inside.length_le⟩

theorem append {front : List Char} (nonempty : front ≠ []) : ProperEnd rest (front ++ rest) := by
  obtain ⟨c, later, rfl⟩ := List.exists_cons_of_ne_nil nonempty
  exact cons (List.suffix_append later rest)

theorem skipSpace (proper : ProperEnd rest text) : ProperEnd (skipSpace rest) text :=
  ⟨(skipSpace_suffix rest).trans proper.isEnd,
    Nat.lt_of_le_of_lt (skipSpace_suffix rest).length_le proper.shorter⟩

theorem skipped (proper : ProperEnd rest text) (skipped : Json.skipSpace rest = c :: behind) :
    ProperEnd behind text :=
  ⟨(suffix_of_skipSpace skipped).trans proper.isEnd,
    Nat.lt_of_le_of_lt (suffix_of_skipSpace skipped).length_le proper.shorter⟩

end ProperEnd

theorem properEnd_of_readString {c : Char} {scalar : Scalar} {behind : List Char}
    (success : readString rest = .ok (scalar, behind)) : ProperEnd behind (c :: rest) :=
  .cons ((leaves_readString rest).of_ok success)

theorem shortens_readScalar (text : List Char) : Shortens text (readScalar text) := by
  cases reading : readScalar text with
  | error => trivial
  | ok read =>
      rcases readScalar_eq_ok reading with ⟨word, known, same, _⟩ |
        ⟨negative, c, later, _, rfl, isNumber⟩
      · have nonempty : ∀ word ∈ words, word.1 ≠ [] := by decide
        rw [same]
        exact .append (nonempty word known)
      · rw [readNumber, Option.map_eq_some_iff] at isNumber
        obtain ⟨⟨whole, behind⟩, isWhole, made⟩ := isNumber
        obtain ⟨scalar, _, made⟩ := except_bind_eq_ok.1 made
        cases made
        have parts : whole ++ behind = c :: later := append_of_wholeDigits isWhole
        have proper : ProperEnd behind (c :: later) :=
          parts ▸ .append (ne_nil_of_wholeDigits isWhole)
        have after := suffix_exponentPart (suffix_fractionDigits (List.suffix_refl behind))
        have signed : c :: later <:+ withSign negative (c :: later) := by
          cases negative with
          | true => exact List.suffix_cons _ _
          | false => exact List.suffix_rfl
        exact ⟨after.trans (proper.within signed).isEnd,
          Nat.lt_of_le_of_lt after.length_le (proper.within signed).shorter⟩

/-- With so much fuel the readers of values, members and items take what they give from the front
of the text. -/
structure Shortening (fuel : Nat) : Prop where
  value (text : List Char) : Shortens text (readValue fuel text)
  members (entries : Entries) (text : List Char) : Shortens text (readMembers fuel entries text)
  items (text : List Char) : Shortens text (readItems fuel text)

namespace Shortening

variable {fuel : Nat}

theorem value_succ (parts : Shortening fuel) (text : List Char) :
    Shortens text (readValue (fuel + 1) text) := by
  rw [readValue.eq_def]
  dsimp only
  split
  next rest =>
    refine ((leaves_readString rest).imp (fun _ _ => trivial) fun _ inside => inside).bind ?_
    exact fun _ inside => .cons inside
  next rest =>
    split
    next skipped => exact .cons (suffix_of_skipSpace skipped)
    next =>
      refine (parts.members [] _).bind ?_
      exact fun _ proper => .cons (proper.isEnd.trans (skipSpace_suffix rest))
  next rest =>
    split
    next skipped => exact .cons (suffix_of_skipSpace skipped)
    next =>
      refine (parts.items _).bind ?_
      exact fun _ proper => .cons (proper.isEnd.trans (skipSpace_suffix rest))
  next => exact (shortens_readScalar text).bind fun _ proper => proper

theorem members_succ (parts : Shortening fuel) (entries : Entries) (text : List Char) :
    Shortens text (readMembers (fuel + 1) entries text) := by
  rw [readMembers.eq_def]
  dsimp only
  split
  next rest =>
    refine ((leaves_readString rest).imp (fun _ _ => trivial) fun _ inside => inside).bind ?_
    intro name inside
    split
    next behind skipped =>
      refine (parts.value _).bind ?_
      intro value proper
      have after : ProperEnd value.2 ('"' :: rest) :=
        .cons (proper.isEnd.trans ((skipSpace_suffix behind).trans
          ((suffix_of_skipSpace skipped).trans inside)))
      split
      next skipped => exact after.skipped skipped
      next behind skipped =>
        refine (parts.members _ _).imp (fun _ _ => trivial) ?_
        intro read proper
        exact proper.within ((skipSpace_suffix behind).trans (after.skipped skipped).isEnd)
      next => trivial
    next => trivial
  next => trivial

theorem items_succ (parts : Shortening fuel) (text : List Char) :
    Shortens text (readItems (fuel + 1) text) := by
  rw [readItems.eq_def]
  dsimp only
  refine (parts.value text).bind ?_
  intro item proper
  split
  next skipped => exact proper.skipped skipped
  next behind skipped =>
    refine (parts.items _).bind ?_
    intro read later
    exact later.within ((skipSpace_suffix behind).trans (proper.skipped skipped).isEnd)
  next => trivial

end Shortening

theorem shortening (fuel : Nat) : Shortening fuel := by
  induction fuel with
  | zero =>
      constructor
      · intro text
        rw [readValue.eq_def]
        trivial
      · intro entries text
        rw [readMembers.eq_def]
        trivial
      · intro text
        rw [readItems.eq_def]
        trivial
  | succ fuel ih => exact ⟨ih.value_succ, ih.members_succ, ih.items_succ⟩

/-! ## Enough fuel -/

/-- Once there is so much fuel, more of it changes nothing. A value takes a character, so a list of
values needs one step more. -/
structure Settled (fuel : Nat) : Prop where
  value {text : List Char} (enough : 2 * text.length + 1 ≤ fuel) :
    readValue (fuel + 1) text = readValue fuel text
  members {text : List Char} (entries : Entries) (enough : 2 * text.length + 2 ≤ fuel) :
    readMembers (fuel + 1) entries text = readMembers fuel entries text
  items {text : List Char} (enough : 2 * text.length + 2 ≤ fuel) :
    readItems (fuel + 1) text = readItems fuel text

namespace Settled

variable {fuel : Nat}

theorem value_succ (parts : Settled fuel) (enough : 2 * text.length + 1 ≤ fuel + 1) :
    readValue (fuel + 2) text = readValue (fuel + 1) text := by
  have shorter {c : Char} {rest : List Char} (same : text = c :: rest) :
      2 * (skipSpace rest).length + 2 ≤ fuel := by
    have length := (skipSpace_suffix rest).length_le
    rw [same, List.length_cons] at enough
    omega
  rw [readValue.eq_def, readValue.eq_def (fuel + 1)]
  dsimp only
  split
  next => rfl
  next rest =>
    have inner := parts.members [] (shorter rfl)
    generalize skipSpace rest = behind at inner ⊢
    split
    next => rfl
    next => rw [inner]
  next rest =>
    have inner := parts.items (shorter rfl)
    generalize skipSpace rest = behind at inner ⊢
    split
    next => rfl
    next => rw [inner]
  next => rfl

theorem members_succ (parts : Settled fuel) (entries : Entries)
    (enough : 2 * text.length + 2 ≤ fuel + 1) :
    readMembers (fuel + 2) entries text = readMembers (fuel + 1) entries text := by
  rw [readMembers.eq_def, readMembers.eq_def (fuel + 1)]
  dsimp only
  split
  next rest =>
    refine except_bind_congr fun name isName => ?_
    have named : ProperEnd name.2 ('"' :: rest) := properEnd_of_readString isName
    generalize begun : skipSpace name.2 = behind
    split
    next behind =>
      have proper := (named.skipped begun).skipSpace
      have length := proper.shorter
      rw [parts.value (by omega)]
      refine except_bind_congr fun value isValue => ?_
      have shorter := ((shortening fuel).value _).of_ok isValue
      generalize ended : skipSpace value.2 = behind
      split
      next => rfl
      next behind =>
        have later := (shorter.skipped ended).skipSpace.shorter
        rw [parts.members _ (by omega)]
      next => rfl
    next => rfl
  next => rfl

theorem items_succ (parts : Settled fuel) (enough : 2 * text.length + 2 ≤ fuel + 1) :
    readItems (fuel + 2) text = readItems (fuel + 1) text := by
  rw [readItems.eq_def, readItems.eq_def (fuel + 1)]
  dsimp only
  rw [parts.value (by omega)]
  refine except_bind_congr fun item isItem => ?_
  have shorter := ((shortening fuel).value _).of_ok isItem
  generalize ended : skipSpace item.2 = behind
  split
  next => rfl
  next behind =>
    have later := (shorter.skipped ended).skipSpace.shorter
    rw [parts.items (by omega)]
  next => rfl

end Settled

theorem settled (fuel : Nat) : Settled fuel := by
  induction fuel with
  | zero =>
      constructor
      · exact fun enough => absurd enough (by omega)
      · exact fun _ enough => absurd enough (by omega)
      · exact fun enough => absurd enough (by omega)
  | succ fuel ih => exact ⟨ih.value_succ, ih.members_succ, ih.items_succ⟩

/-! ## Readers without fuel -/

/-- The value at the front of a text. -/
def valueAt (text : List Char) : Except Stop (Value × List Char) :=
  readValue (2 * text.length + 1) text

/-- The members of an object at the front of a text, behind those before them. -/
def membersAt (entries : Entries) (text : List Char) : Except Stop (Entries × List Char) :=
  readMembers (2 * text.length + 2) entries text

/-- The items of an array at the front of a text. -/
def itemsAt (text : List Char) : Except Stop (List Value × List Char) :=
  readItems (2 * text.length + 2) text

theorem readValue_eq {fuel : Nat} (enough : 2 * text.length + 1 ≤ fuel) :
    readValue fuel text = valueAt text := by
  induction enough with
  | refl => rfl
  | step enough ih => rw [(settled _).value enough, ih]

theorem readMembers_eq {fuel : Nat} (entries : Entries) (enough : 2 * text.length + 2 ≤ fuel) :
    readMembers fuel entries text = membersAt entries text := by
  induction enough with
  | refl => rfl
  | step enough ih => rw [(settled _).members entries enough, ih]

theorem readItems_eq {fuel : Nat} (enough : 2 * text.length + 2 ≤ fuel) :
    readItems fuel text = itemsAt text := by
  induction enough with
  | refl => rfl
  | step enough ih => rw [(settled _).items enough, ih]

/-! ## The first integer that is too long -/

/-- What a reader may be in the middle of. -/
inductive Target where
  | value
  | members
  | items

/-- Reading such a part of a text comes to an integer of so many digits, more than may be: whatever
stands before it is read. -/
inductive Overlong (count : Nat) : Target → List Char → Prop where
  | here {text : List Char} (isLong : LongInteger count text) : Overlong count .value text
  | members {rest : List Char} (inner : Overlong count .members (skipSpace rest)) :
      Overlong count .value ('\x7b' :: rest)
  | items {rest : List Char} (inner : Overlong count .items (skipSpace rest)) :
      Overlong count .value ('[' :: rest)
  | member {rest behind later : List Char} {name : Scalar}
      (named : readString rest = .ok (name, behind)) (colon : skipSpace behind = ':' :: later)
      (inner : Overlong count .value (skipSpace later)) : Overlong count .members ('"' :: rest)
  | nextMember {rest behind later after next : List Char} {name : Scalar} {value : Value}
      (named : readString rest = .ok (name, behind)) (colon : skipSpace behind = ':' :: later)
      (read : valueAt (skipSpace later) = .ok (value, after))
      (comma : skipSpace after = ',' :: next)
      (inner : Overlong count .members (skipSpace next)) : Overlong count .members ('"' :: rest)
  | item {text : List Char} (inner : Overlong count .value text) : Overlong count .items text
  | nextItem {text behind later : List Char} {item : Value}
      (read : valueAt text = .ok (item, behind)) (comma : skipSpace behind = ',' :: later)
      (inner : Overlong count .items (skipSpace later)) : Overlong count .items text

/-- With so much fuel, where it is enough, the readers stop for a number only where they come to an
integer that is too long. -/
structure Finds (fuel : Nat) : Prop where
  value {text : List Char} {fault : Number.Fault} (enough : 2 * text.length + 1 ≤ fuel)
    (failed : readValue fuel text = .error (.number fault)) :
    ∃ count, Overlong count .value text ∧ fault = .tooLong count
  members {text : List Char} {entries : Entries} {fault : Number.Fault}
    (enough : 2 * text.length + 2 ≤ fuel)
    (failed : readMembers fuel entries text = .error (.number fault)) :
    ∃ count, Overlong count .members text ∧ fault = .tooLong count
  items {text : List Char} {fault : Number.Fault} (enough : 2 * text.length + 2 ≤ fuel)
    (failed : readItems fuel text = .error (.number fault)) :
    ∃ count, Overlong count .items text ∧ fault = .tooLong count

theorem readString_ne_number (text : List Char) (fault : Number.Fault) :
    readString text ≠ .error (.number fault) :=
  fun failed => (leaves_readString text).of_error failed

namespace Finds

variable {fuel : Nat} {fault : Number.Fault}

theorem value_succ (parts : Finds fuel) (enough : 2 * text.length + 1 ≤ fuel + 1)
    (failed : readValue (fuel + 1) text = .error (.number fault)) :
    ∃ count, Overlong count .value text ∧ fault = .tooLong count := by
  have shorter {c : Char} {rest : List Char} (same : text = c :: rest) :
      2 * (skipSpace rest).length + 2 ≤ fuel := by
    have length := (skipSpace_suffix rest).length_le
    rw [same, List.length_cons] at enough
    omega
  rw [readValue.eq_def] at failed
  dsimp only at failed
  split at failed
  next rest =>
    obtain failed | ⟨_, _, impossible⟩ := except_bind_eq_error.1 failed
    · exact absurd failed (readString_ne_number rest fault)
    · cases impossible
  next rest =>
    split at failed
    next => cases failed
    next =>
      obtain failed | ⟨_, _, impossible⟩ := except_bind_eq_error.1 failed
      · obtain ⟨count, inner, same⟩ := parts.members (shorter rfl) failed
        exact ⟨count, .members inner, same⟩
      · cases impossible
  next rest =>
    split at failed
    next => cases failed
    next =>
      obtain failed | ⟨_, _, impossible⟩ := except_bind_eq_error.1 failed
      · obtain ⟨count, inner, same⟩ := parts.items (shorter rfl) failed
        exact ⟨count, .items inner, same⟩
      · cases impossible
  next =>
    obtain failed | ⟨_, _, impossible⟩ := except_bind_eq_error.1 failed
    · obtain ⟨count, isLong, same⟩ := readScalar_eq_number_iff.1 failed
      exact ⟨count, .here isLong, same⟩
    · cases impossible

theorem members_succ (parts : Finds fuel) {entries : Entries}
    (enough : 2 * text.length + 2 ≤ fuel + 1)
    (failed : readMembers (fuel + 1) entries text = .error (.number fault)) :
    ∃ count, Overlong count .members text ∧ fault = .tooLong count := by
  rw [readMembers.eq_def] at failed
  dsimp only at failed
  split at failed
  next rest =>
    obtain failed | ⟨name, isName, failed⟩ := except_bind_eq_error.1 failed
    · exact absurd failed (readString_ne_number rest fault)
    have named : ProperEnd name.2 ('"' :: rest) := properEnd_of_readString isName
    split at failed
    next later colon =>
      have before := (named.skipped colon).skipSpace
      have length := before.shorter
      obtain failed | ⟨value, isValue, failed⟩ := except_bind_eq_error.1 failed
      · obtain ⟨count, inner, same⟩ := parts.value (by omega) failed
        exact ⟨count, .member isName colon inner, same⟩
      have after := ((shortening fuel).value _).of_ok isValue
      rw [readValue_eq (by omega)] at isValue
      split at failed
      next => cases failed
      next next comma =>
        have shorter := (after.skipped comma).skipSpace.shorter
        obtain ⟨count, inner, same⟩ := parts.members (by omega) failed
        exact ⟨count, .nextMember isName colon isValue comma inner, same⟩
      next => cases failed
    next => cases failed
  next => cases failed

theorem items_succ (parts : Finds fuel) (enough : 2 * text.length + 2 ≤ fuel + 1)
    (failed : readItems (fuel + 1) text = .error (.number fault)) :
    ∃ count, Overlong count .items text ∧ fault = .tooLong count := by
  rw [readItems.eq_def] at failed
  dsimp only at failed
  obtain failed | ⟨item, isItem, failed⟩ := except_bind_eq_error.1 failed
  · obtain ⟨count, inner, same⟩ := parts.value (by omega) failed
    exact ⟨count, .item inner, same⟩
  have after := ((shortening fuel).value _).of_ok isItem
  rw [readValue_eq (by omega)] at isItem
  split at failed
  next => cases failed
  next later comma =>
    have shorter := (after.skipped comma).skipSpace.shorter
    obtain failed | ⟨_, _, impossible⟩ := except_bind_eq_error.1 failed
    · obtain ⟨count, inner, same⟩ := parts.items (by omega) failed
      exact ⟨count, .nextItem isItem comma inner, same⟩
    · cases impossible
  next => cases failed

end Finds

theorem finds (fuel : Nat) : Finds fuel := by
  induction fuel with
  | zero =>
      constructor
      · exact fun enough => absurd enough (by omega)
      · exact fun enough => absurd enough (by omega)
      · exact fun enough => absurd enough (by omega)
  | succ fuel ih => exact ⟨ih.value_succ, ih.members_succ, ih.items_succ⟩

/-- A part of a text is not read because of a number. -/
def Target.Fails (fault : Number.Fault) (text : List Char) : Target → Prop
  | .value => valueAt text = .error (.number fault)
  | .members => ∀ entries, membersAt entries text = .error (.number fault)
  | .items => itemsAt text = .error (.number fault)

theorem valueAt_of_longInteger {count : Nat} (isLong : LongInteger count text) :
    valueAt text = .error (.number (.tooLong count)) := by
  have failed := readScalar_eq_number_iff.2 ⟨count, isLong, rfl⟩
  have starts : ∃ c later, text = c :: later ∧ (isDigit c ∨ c = '-') := by
    obtain ⟨negative, _, areDigits, _⟩ := isLong
    cases negative with
    | true => exact ⟨_, _, rfl, .inr rfl⟩
    | false => exact ⟨_, _, rfl, .inl (areDigits _ List.mem_cons_self)⟩
  obtain ⟨c, later, rfl, starts⟩ := starts
  have differs : ∀ other ∈ ['"', '\x7b', '['], c ≠ other := by
    rintro other member rfl
    revert member starts
    simp only [List.mem_cons, List.not_mem_nil, or_false]
    rintro starts (rfl | rfl | rfl) <;> exact absurd starts (by decide)
  rw [valueAt, readValue.eq_def]
  dsimp only
  split
  next same => exact absurd (List.cons.inj same).1 (differs _ (by decide))
  next same => exact absurd (List.cons.inj same).1 (differs _ (by decide))
  next same => exact absurd (List.cons.inj same).1 (differs _ (by decide))
  next =>
    rw [failed]
    rfl

theorem valueAt_of_members {fault : Number.Fault}
    (failed : membersAt [] (skipSpace rest) = .error (.number fault)) :
    valueAt ('\x7b' :: rest) = .error (.number fault) := by
  have length := (skipSpace_suffix rest).length_le
  have fueled := (@readMembers_eq _ (2 * ('\x7b' :: rest).length) []
    (by rw [List.length_cons]; omega)).trans failed
  rw [valueAt, readValue]
  split
  next closed =>
    rw [closed] at failed
    cases failed
  next =>
    rw [fueled]
    rfl

theorem valueAt_of_items {fault : Number.Fault}
    (failed : itemsAt (skipSpace rest) = .error (.number fault)) :
    valueAt ('[' :: rest) = .error (.number fault) := by
  have length := (skipSpace_suffix rest).length_le
  have fueled := (@readItems_eq _ (2 * ('[' :: rest).length)
    (by rw [List.length_cons]; omega)).trans failed
  rw [valueAt, readValue]
  split
  next closed =>
    rw [closed] at failed
    cases failed
  next =>
    rw [fueled]
    rfl

theorem Overlong.fails {count : Nat} {target : Target} (overlong : Overlong count target text) :
    target.Fails (.tooLong count) text := by
  induction overlong with
  | here isLong => exact valueAt_of_longInteger isLong
  | members inner ih => exact valueAt_of_members (ih [])
  | items inner ih => exact valueAt_of_items ih
  | member named colon inner ih =>
      intro entries
      have shorter := ((properEnd_of_readString (c := '"') named).skipped colon).skipSpace.shorter
      rw [membersAt, readMembers, named]
      dsimp only [bind, Except.bind]
      simp only [colon]
      rw [readValue_eq (by omega), show valueAt _ = _ from ih]
  | nextMember named colon read comma inner ih =>
      intro entries
      have before := ((properEnd_of_readString (c := '"') named).skipped colon).skipSpace
      have length := before.shorter
      have after := ((shortening _).value _).of_ok read
      have shorter := (after.skipped comma).skipSpace.shorter
      rw [membersAt, readMembers, named]
      dsimp only [bind, Except.bind]
      simp only [colon]
      rw [readValue_eq (by omega), read]
      simp only [comma]
      rw [readMembers_eq _ (by omega)]
      exact ih _
  | item inner ih =>
      change itemsAt _ = _
      rw [itemsAt, readItems.eq_def]
      dsimp only
      rw [readValue_eq (by omega), show valueAt _ = _ from ih]
      rfl
  | nextItem read comma inner ih =>
      have after := ((shortening _).value _).of_ok read
      have shorter := (after.skipped comma).skipSpace.shorter
      change itemsAt _ = _
      rw [itemsAt, readItems.eq_def]
      dsimp only
      rw [readValue_eq (by omega), read]
      dsimp only [bind, Except.bind]
      simp only [comma]
      rw [readItems_eq (by omega), show itemsAt _ = _ from ih]

/-- The one reason not to read a text that does not show that it is no JSON is an integer that is
too long, where everything before it is read. -/
theorem read_eq_number_iff {text : String} {fault : Number.Fault} :
    read text = .error (.number fault) ↔
      ∃ count, Overlong count .value (skipSpace text.toList) ∧ fault = .tooLong count := by
  have stopped : read text = .error (.number fault) ↔
      readText text.toList = .error (.number fault) := by
    unfold read
    cases readText text.toList with
    | ok value => simp [Except.mapError]
    | error stop => cases stop <;> simp [Except.mapError, Stop.inText]
  have enough : 2 * (skipSpace text.toList).length + 1 ≤ 2 * text.toList.length + 2 := by
    have length := (skipSpace_suffix text.toList).length_le
    omega
  have started : readText text.toList = .error (.number fault) ↔
      valueAt (skipSpace text.toList) = .error (.number fault) := by
    rw [← readValue_eq enough, readText.eq_def]
    split
    next same =>
      refine iff_of_false nofun fun failed => ?_
      rw [same] at failed
      cases failed
    next =>
      rw [except_bind_eq_error]
      refine or_iff_left ?_
      rintro ⟨read, _, failed⟩
      dsimp only at failed
      split at failed <;> cases failed
  rw [stopped, started]
  constructor
  · exact (finds _).value Nat.le.refl
  · rintro ⟨count, overlong, rfl⟩
    exact overlong.fails

end RouteTypes.Json
