import RouteTypes.Check.Problem
import RouteTypes.Number.Reading

/-!
# Checks of scalars

Texts, truth values and numbers. The checks are lenient: bytes count as the text that they
encode, a truth value may be written as a word or as the number one or zero, and a number may be
written as a text. A text with a half of a pair is refused, as bytes that encode none are.
-/

namespace RouteTypes.Check

/-- The text of a scalar. -/
def scalarText : Scalar → Checked String
  | .text value => .ok value
  | .broken _ => Checked.fail .unicode
  | .bytes value =>
    match Utf8.decode value with
    | .ok text => .ok (String.ofList text)
    | .error _ => Checked.fail .unicode
  | _ => Checked.fail .text

/-- A text. -/
def text : Value → Checked String
  | .scalar value => scalarText value
  | _ => Checked.fail .text

/-- A value that may be absent. -/
def optional (check : Value → Checked α) : Value → Checked (Option α)
  | .scalar .null => .ok none
  | value => some <$> check value

/-- The truth value of a word. -/
def truthOfWord (text : String) : Checked Bool :=
  let word := String.ofList (text.toList.map Char.toLower)
  if ["1", "on", "t", "true", "y", "yes"].contains word then .ok true
  else if ["0", "off", "f", "false", "n", "no"].contains word then .ok false
  else Checked.fail .truthText

/-- The integer fits into 64 bits. -/
def isShort (value : Int) : Bool :=
  -(Nat.pow 2 63 : Nat) ≤ value && value < (Nat.pow 2 63 : Nat)

/-- The truth value of an integer. -/
def truthOfInt (value : Int) : Checked Bool :=
  if value == 0 then .ok false
  else if value == 1 then .ok true
  else if isShort value then Checked.fail .truthText
  else Checked.fail .truth

/-- A truth value. -/
def truth : Value → Checked Bool
  | .scalar (.bool value) => .ok value
  | .scalar (.text value) => truthOfWord value
  | .scalar (.broken _) => Checked.fail .unicode
  | .scalar (.bytes value) =>
    match Utf8.decode value with
    | .ok text => truthOfWord (String.ofList text)
    | .error _ => Checked.fail .truthText
  | .scalar (.int value) => truthOfInt value
  | .scalar (.float value) =>
    match value.toInt? with
    | some integer => truthOfInt integer
    | none => Checked.fail .truth
  | _ => Checked.fail .truth

/-- A text without a fraction that consists of zeros. -/
def dropZeroFraction (text : List Char) : List Char :=
  match text.reverse.dropWhile (· == '0') with
  | '.' :: rest => if rest.isEmpty then text else rest.reverse
  | _ => text

/-- The integer that a text of ASCII characters stands for. -/
def integerOfText (text : String) : Checked Int :=
  let plain := Text.trim text.toList
  if plain.any fun c => 128 ≤ c.toNat then Checked.fail .integerText
  else
    match Number.readInteger 10 (String.ofList (dropZeroFraction plain)) with
    | .ok value => .ok value
    | .error _ => Checked.fail .integerText

/-- An integer. -/
def integer : Value → Checked Int
  | .scalar (.int value) => .ok value
  | .scalar (.bool value) => .ok value.toNat
  | .scalar (.text value) => integerOfText value
  | .scalar (.broken _) => Checked.fail .unicode
  | .scalar (.float value) =>
    match value.toInt? with
    | some integer => .ok integer
    | none => Checked.fail .integerFraction
  | _ => Checked.fail .integer

/-- A number. -/
def number : Value → Checked Binary64
  | .scalar (.int value) => .ok (.ofInt value)
  | .scalar (.bool value) => .ok (.ofInt value.toNat)
  | .scalar (.float value) => .ok value
  | .scalar (.text value) =>
    match Number.readFloat value with
    | .ok value => .ok value
    | .error _ => Checked.fail .numberText
  | .scalar (.broken _) => Checked.fail .unicode
  | _ => Checked.fail .number

/-- One of several texts, with what it stands for. -/
def choice (choices : List (String × α)) (value : Scalar) : Checked α :=
  let found := match scalarText value with
    | .ok text => choices.lookup text
    | .error _ => none
  match found with
  | some value => .ok value
  | none => Checked.fail (.choice (choices.map Prod.fst))

end RouteTypes.Check
