/-!
# Floating-point numbers

Numbers with 53 significant bits and a binary exponent, the two infinities and one
indeterminate value. A finite number is kept as its sign, its significand and its exponent, so
that rounding and comparison are exact arithmetic on natural numbers.
-/

namespace RouteTypes

/-- A floating-point number. A finite one is `significand * 2 ^ exponent`, negated where
`negative` holds. -/
inductive Binary64 where
  | finite (negative : Bool) (significand : Nat) (exponent : Int)
  | infinite (negative : Bool)
  | indeterminate
  deriving DecidableEq, Repr

namespace Binary64

/-- The exponent of the last place of the smallest numbers. -/
def minExponent : Int := -1074

/-- The exponent of the last place of the largest numbers. -/
def maxExponent : Int := 971

/-- Zero, with its sign. -/
def zero (negative : Bool) : Binary64 :=
  .finite negative 0 minExponent

/-- The quotient of two natural numbers rounded to the nearest integer, a half to the even
neighbour. -/
def divideToEven (numerator denominator : Nat) : Nat :=
  let quotient := numerator / denominator
  let double := 2 * (numerator % denominator)
  if double < denominator then quotient
  else if denominator < double then quotient + 1
  else if quotient % 2 = 0 then quotient else quotient + 1

/-- The quotient `numerator / denominator / 2 ^ exponent` as a pair of natural numbers. -/
def scaled (numerator denominator : Nat) (exponent : Int) : Nat × Nat :=
  if 0 ≤ exponent then (numerator, denominator * Nat.pow 2 exponent.toNat)
  else (numerator * Nat.pow 2 (-exponent).toNat, denominator)

/-- The exponent for which `numerator / denominator` has 53 significant bits before the point,
or `minExponent` where that would be below it. -/
def exponentOf (numerator denominator : Nat) : Int :=
  let guess : Int := (numerator.log2 : Int) - denominator.log2 - 52
  let (above, below) := scaled numerator denominator guess
  let exponent :=
    if above / below < Nat.pow 2 52 then guess - 1
    else if above / below < Nat.pow 2 53 then guess
    else guess + 1
  max exponent minExponent

/-- The floating-point number nearest to `numerator / denominator`, of two equally near ones
the one with an even significand. -/
def ofRatio (negative : Bool) (numerator denominator : Nat) : Binary64 :=
  if numerator = 0 then zero negative
  else
    let exponent := exponentOf numerator denominator
    let (above, below) := scaled numerator denominator exponent
    let significand := divideToEven above below
    let (significand, exponent) :=
      if significand = Nat.pow 2 53 then (Nat.pow 2 52, exponent + 1) else (significand, exponent)
    if maxExponent < exponent then .infinite negative
    else .finite negative significand exponent

/-- The floating-point number nearest to an integer. -/
def ofInt (value : Int) : Binary64 :=
  ofRatio (value < 0) value.natAbs 1

/-- The floating-point number nearest to `digits * 10 ^ exponent`. An exponent far outside the
range gives zero or an infinity without the power being computed. -/
def ofDecimal (negative : Bool) (digits : Nat) (exponent : Int) : Binary64 :=
  if digits = 0 then zero negative
  else if 400 < exponent then .infinite negative
  else if exponent + (digits.log2 : Int) < -1100 then zero negative
  else if 0 ≤ exponent then ofRatio negative (digits * Nat.pow 10 exponent.toNat) 1
  else ofRatio negative digits (Nat.pow 10 (-exponent).toNat)

/-- The number with the opposite sign. -/
def neg : Binary64 → Binary64
  | .finite negative significand exponent => .finite (!negative) significand exponent
  | .infinite negative => .infinite (!negative)
  | .indeterminate => .indeterminate

/-- The sign and the size of a finite number, as a quotient. -/
def toRatio? : Binary64 → Option (Bool × Nat × Nat)
  | .finite negative significand exponent =>
    if 0 ≤ exponent then some (negative, significand * Nat.pow 2 exponent.toNat, 1)
    else some (negative, significand, Nat.pow 2 (-exponent).toNat)
  | _ => none

/-- The integer that the number is equal to. -/
def toInt? (value : Binary64) : Option Int :=
  match value.toRatio? with
  | some (negative, numerator, denominator) =>
    if numerator % denominator = 0 then
      let size : Int := (numerator / denominator : Nat)
      some (if negative then -size else size)
    else none
  | none => none

/-- An integer with a sign. -/
def signed (negative : Bool) (size : Nat) : Int :=
  if negative then -(size : Int) else size

/-- The sum, rounded. -/
def add : Binary64 → Binary64 → Binary64
  | .indeterminate, _ => .indeterminate
  | _, .indeterminate => .indeterminate
  | .infinite left, .infinite right =>
    if left = right then .infinite left else .indeterminate
  | .infinite left, _ => .infinite left
  | _, .infinite right => .infinite right
  | left, right =>
    match left.toRatio?, right.toRatio? with
    | some (negative, above, below), some (negative', above', below') =>
      let sum := signed negative above * below' + signed negative' above' * below
      if sum = 0 then zero (negative && negative')
      else ofRatio (sum < 0) sum.natAbs (below * below')
    | _, _ => .indeterminate

/-- The product with a natural number that has been rounded first. -/
def mulNat (value : Binary64) (factor : Nat) : Binary64 :=
  match value, ofRatio false factor 1 with
  | .indeterminate, _ => .indeterminate
  | .infinite negative, other =>
    if other = zero false then .indeterminate else .infinite negative
  | _, .infinite _ =>
    match value.toRatio? with
    | some (negative, above, _) => if above = 0 then .indeterminate else .infinite negative
    | none => .indeterminate
  | _, other =>
    match value.toRatio?, other.toRatio? with
    | some (negative, above, below), some (_, above', below') =>
      ofRatio negative (above * above') (below * below')
    | _, _ => .indeterminate

/-- Equality of numbers: the zeros are equal and the indeterminate value differs from itself. -/
def same : Binary64 → Binary64 → Bool
  | .indeterminate, _ => false
  | .finite left significand exponent, .finite right significand' exponent' =>
    if significand = 0 then significand' = 0
    else left == right && significand == significand' && exponent == exponent'
  | .infinite left, .infinite right => left == right
  | _, _ => false

/-- Equality with an integer. -/
def sameInt (value : Binary64) (integer : Int) : Bool :=
  value.toInt? == some integer

end Binary64

end RouteTypes
