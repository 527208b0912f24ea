import RouteTypes.Number.Binary64

/-!
# Decimal forms of floating-point numbers

Two decimal forms are needed. The *shortest* form has the fewest digits that are read back as
the same number and, of the candidates with that many digits, is the one nearest to it. The
*six-digit* form rounds to six significant digits and drops trailing zeros.
-/

namespace RouteTypes

/-- A decimal number `0.d₁d₂… * 10 ^ point`, given by its digits; the first digit is not zero
unless it is the only one. -/
structure Decimal where
  digits : List Nat
  point : Int
  deriving DecidableEq, Repr

namespace Decimal

/-- The decimal digits of a natural number, most significant first. -/
def digitsOf (value : Nat) : List Nat :=
  (Nat.toDigits 10 value).map fun digit => digit.toNat - 48

/-- The number of decimal digits of a natural number. -/
def length (value : Nat) : Nat :=
  (Nat.toDigits 10 value).length

/-- The least `places` for which `numerator * 10 ^ places` reaches `denominator`. -/
def leadingPlaces (denominator : Nat) : Nat → Nat → Nat
  | 0, _ => 0
  | fuel + 1, numerator =>
    if denominator ≤ numerator then 0
    else leadingPlaces denominator fuel (numerator * 10) + 1

/-- The power of ten of the first digit of a positive quotient. -/
def magnitude (numerator denominator : Nat) : Int :=
  if denominator ≤ numerator then (length (numerator / denominator) : Int) - 1
  else -(leadingPlaces denominator 400 numerator : Int)

/-- The quotient `numerator / denominator / 10 ^ power` as a pair of natural numbers. -/
def scaled (numerator denominator : Nat) (power : Int) : Nat × Nat :=
  if 0 ≤ power then (numerator, denominator * Nat.pow 10 power.toNat)
  else (numerator * Nat.pow 10 (-power).toNat, denominator)

/-- A decimal number from its digits read as an integer, without trailing zeros. -/
def ofInteger (value : Nat) (power : Int) : Decimal :=
  let digits := digitsOf value
  let point := power + digits.length
  match (digits.reverse.dropWhile (· == 0)).reverse with
  | [] => ⟨[0], 1⟩
  | kept => ⟨kept, point⟩

/-- The numbers that are read as a given floating-point number: those between two quotients
with a common denominator, which belong to them where `closed` holds. -/
structure Interval where
  low : Nat
  value : Nat
  high : Nat
  denominator : Nat
  closed : Bool

/-- The numbers that round to `significand * 2 ^ exponent`. The gap below a power of two is
half as wide as the one above it. -/
def Interval.ofFloat (significand : Nat) (exponent : Int) : Interval :=
  let narrow := significand == Nat.pow 2 52 && Binary64.minExponent < exponent
  let low := if narrow then 4 * significand - 1 else 4 * significand - 2
  let value := 4 * significand
  let high := 4 * significand + 2
  let closed := significand % 2 == 0
  let power := exponent - 2
  if 0 ≤ power then
    let unit := Nat.pow 2 power.toNat
    ⟨low * unit, value * unit, high * unit, 1, closed⟩
  else ⟨low, value, high, Nat.pow 2 (-power).toNat, closed⟩

/-- The interval holds `candidate * 10 ^ power`. -/
def Interval.holds (interval : Interval) (candidate : Nat) (power : Int) : Bool :=
  let (above, below) := scaled interval.denominator 1 (-power)
  let point := candidate * above
  let low := interval.low * below
  let high := interval.high * below
  if interval.closed then low ≤ point && point ≤ high else low < point && point < high

/-- The neighbour of the value on the grid of multiples of `10 ^ power` that lies in the
interval; of two such neighbours the nearer, and of equally near ones the even one. -/
def Interval.nearest? (interval : Interval) (power : Int) : Option Nat :=
  let (above, below) := scaled interval.value interval.denominator power
  let floor := above / below
  let double := 2 * (above % below)
  match interval.holds floor power && floor != 0, interval.holds (floor + 1) power with
  | true, true =>
    if double < below || (double == below && floor % 2 == 0) then some floor
    else some (floor + 1)
  | true, false => some floor
  | false, true => some (floor + 1)
  | false, false => none

/-- Tries ever finer grids. -/
def Interval.search (interval : Interval) (power : Int) : Nat → Decimal
  | 0 => ofInteger 0 0
  | fuel + 1 =>
    match interval.nearest? power with
    | some candidate => ofInteger candidate power
    | none => interval.search (power - 1) fuel

/-- The shortest decimal number that is read as `significand * 2 ^ exponent`. -/
def shortest (significand : Nat) (exponent : Int) : Decimal :=
  if significand = 0 then ⟨[0], 1⟩
  else
    let interval := Interval.ofFloat significand exponent
    interval.search (magnitude interval.value interval.denominator) 18

/-- The decimal number with at most six digits nearest to `numerator / denominator`. -/
def ofSixDigits (numerator denominator : Nat) : Decimal :=
  if numerator = 0 then ⟨[0], 1⟩
  else
    let power := magnitude numerator denominator - 5
    let (above, below) := scaled numerator denominator power
    ofInteger (Binary64.divideToEven above below) power

/-- The character of a decimal digit. -/
def digitChar (digit : Nat) : Char :=
  Char.ofNat (48 + digit)

/-- The layout of a printed decimal number. -/
structure Layout where
  /-- Numbers of at least `10 ^ largest` are written with an exponent. -/
  largest : Int
  /-- A number without fraction is written with the fraction `.0`. -/
  fraction : Bool

/-- Writes an exponent with its sign and at least two digits. -/
def exponentText (exponent : Int) : String :=
  let size := exponent.natAbs
  let sign := if exponent < 0 then "-" else "+"
  sign ++ (if size < 10 then "0" else "") ++ toString size

/-- Writes a decimal number: with an exponent below `10 ^ -4` and from `10 ^ largest`, and in
positional notation between them. -/
def render (layout : Layout) (number : Decimal) : String :=
  let digits := number.digits.map digitChar
  if number.point ≤ -4 || layout.largest < number.point then
    let exponent := "e" ++ exponentText (number.point - 1)
    match digits with
    | [] => ""
    | [digit] => digit.toString ++ exponent
    | digit :: rest => digit.toString ++ "." ++ String.ofList rest ++ exponent
  else if number.point ≤ 0 then
    "0." ++ String.ofList (List.replicate (-number.point).toNat '0' ++ digits)
  else
    let whole := number.point.toNat
    if digits.length ≤ whole then
      String.ofList (digits ++ List.replicate (whole - digits.length) '0') ++
        (if layout.fraction then ".0" else "")
    else String.ofList (digits.take whole) ++ "." ++ String.ofList (digits.drop whole)

end Decimal

namespace Binary64

/-- The shortest form keeps the fraction of whole numbers and goes to an exponent from
`10 ^ 16`. -/
def shortestLayout : Decimal.Layout := ⟨16, true⟩

/-- The six-digit form drops the fraction of whole numbers and goes to an exponent from
`10 ^ 6`. -/
def sixDigitLayout : Decimal.Layout := ⟨6, false⟩

/-- The sign in front of a number. -/
def signText (negative : Bool) : String :=
  if negative then "-" else ""

/-- The shortest text that is read back as the number. -/
def shortestText : Binary64 → String
  | .finite negative significand exponent =>
    signText negative ++ (Decimal.shortest significand exponent).render shortestLayout
  | .infinite negative => signText negative ++ "inf"
  | .indeterminate => "nan"

/-- The number rounded to six significant digits. -/
def sixDigitText : Binary64 → String
  | .infinite negative => signText negative ++ "inf"
  | .indeterminate => "nan"
  | .finite negative significand exponent =>
    let (numerator, denominator) :=
      if 0 ≤ exponent then (significand * Nat.pow 2 exponent.toNat, 1)
      else (significand, Nat.pow 2 (-exponent).toNat)
    signText negative ++ (Decimal.ofSixDigits numerator denominator).render sixDigitLayout

end Binary64

end RouteTypes
