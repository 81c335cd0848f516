import RequestLog.Decimal.Dyadic

/-!
# Decimal digits of a number

A magnitude is written from its significant digits and the place of its point.  `shortest` takes the
fewest digits that read back as the same number, `significant` a fixed number of them, and
`fixedPlaces` rounds at a fixed place after the point.  Rounding is exact, a half to even.
-/

namespace RequestLog
namespace Decimal

/-- Significant digits `d₁d₂…` of the number `0.d₁d₂… * 10 ^ point`. -/
structure Scientific where
  /-- The digits as one integer. -/
  digits : Nat
  /-- Place of the point, counted from before the first digit. -/
  point : Int
  deriving DecidableEq, Repr

/-- The decimal digits of an integer, as characters. -/
def digitChars (n : Nat) : List Char :=
  Nat.toDigits 10 n

/-- Pad with zeros on the left to a least width. -/
def padZeros (width : Nat) (text : List Char) : List Char :=
  List.replicate (width - text.length) '0' ++ text

/-- An integer with at least `width` digits. -/
def paddedText (width n : Nat) : List Char :=
  padZeros width (digitChars n)

/-- Drop trailing zeros of a number of at most `fuel` digits. -/
def dropTrailingZeros : Nat → Nat → Nat
  | 0, n => n
  | fuel + 1, n => if n ≠ 0 ∧ n % 10 = 0 then dropTrailingZeros fuel (n / 10) else n

/-- The place of the point of a positive quotient: the least `p` with the quotient below `10 ^
p`. -/
def pointOf (numerator denominator : Nat) : Int :=
  ((digitChars (numerator * tenTo 400 / denominator)).length : Int) - 400

/-- The quotient over a power of ten, as a new quotient. -/
def overPowerOfTen (numerator denominator : Nat) (power : Int) : Nat × Nat :=
  (numerator * tenTo (-power).toNat, denominator * tenTo power.toNat)

/-- The magnitude rounded to a fixed number of significant digits, at least one. -/
def significant (value : Dyadic) (count : Nat) : Scientific :=
  if value.mantissa = 0 then ⟨0, 1⟩
  else
    let point := pointOf value.numerator value.denominator
    let (numerator, denominator) :=
      overPowerOfTen value.numerator value.denominator (point - count)
    let rounded := roundDiv numerator denominator
    if rounded < tenTo count then ⟨rounded, point⟩ else ⟨rounded / 10, point + 1⟩

/-- The reals that round to a positive number of the format, in quarters of its last place:
`low / denominator` and `high / denominator` are the ends. -/
structure RoundingInterval where
  /-- Lower end. -/
  low : Nat
  /-- The number itself. -/
  middle : Nat
  /-- Upper end. -/
  high : Nat
  /-- Common denominator. -/
  denominator : Nat
  /-- The ends themselves round to the number. -/
  closed : Bool

/-- The interval that rounds to a positive number.  Below a power of two the neighbours lie twice as
close. -/
def RoundingInterval.of (value : Dyadic) : RoundingInterval :=
  let quarter := twoTo value.exponent.toNat
  let below := if value.mantissa = twoTo 52 ∧ -1074 < value.exponent then 1 else 2
  { low := (4 * value.mantissa - below) * quarter
    middle := 4 * value.mantissa * quarter
    high := (4 * value.mantissa + 2) * quarter
    denominator := 4 * twoTo (-value.exponent).toNat
    closed := value.mantissa % 2 = 0 }

/-- The point `count * 10 ^ power` lies in the interval. -/
def RoundingInterval.contains (interval : RoundingInterval) (count : Nat) (power : Int) : Bool :=
  let point := count * tenTo power.toNat * interval.denominator
  let scale := tenTo (-power).toNat
  if interval.closed then interval.low * scale ≤ point ∧ point ≤ interval.high * scale
  else interval.low * scale < point ∧ point < interval.high * scale

/-- The neighbour of the number on the grid of a power of ten that lies in its interval, the nearer
one if both do, the even one if both are as near. -/
def RoundingInterval.onGrid? (interval : RoundingInterval) (power : Int) : Option Nat :=
  let (numerator, denominator) := overPowerOfTen interval.middle interval.denominator power
  let below := numerator / denominator
  match interval.contains below power, interval.contains (below + 1) power with
  | true, true => some (roundDiv numerator denominator)
  | true, false => some below
  | false, true => some (below + 1)
  | false, false => none

/-- Try grids of ever more digits. -/
def RoundingInterval.firstGrid (interval : RoundingInterval) (point : Int) :
    Nat → Nat → Nat × Int
  | 0, _ => (0, 0)
  | fuel + 1, count =>
      match interval.onGrid? (point - count) with
      | some digits => (digits, point - count)
      | none => interval.firstGrid point fuel (count + 1)

/-- The fewest digits that read back as the same number. -/
def shortest (value : Dyadic) : Scientific :=
  if value.mantissa = 0 then ⟨0, 1⟩
  else
    let point := pointOf value.numerator value.denominator
    let (digits, power) := (RoundingInterval.of value).firstGrid point 17 1
    ⟨dropTrailingZeros 20 digits, (digitChars digits).length + power⟩

/-- The digits before and after a point. -/
def Scientific.positional (number : Scientific) : List Char × List Char :=
  let digits := digitChars number.digits
  if number.point ≤ 0 then
    (['0'], List.replicate (-number.point).toNat '0' ++ digits)
  else
    let before := number.point.toNat
    (digits.take before ++ List.replicate (before - digits.length) '0', digits.drop before)

/-- The exponent of ten when one digit stands before the point: a sign and at least two digits. -/
def exponentText (exponent : Int) : List Char :=
  (if exponent < 0 then '-' else '+') :: paddedText 2 exponent.natAbs

/-- A magnitude with a fixed number of places after the point.  Past the last binary place the
digits are zeros. -/
def fixedPlaces (value : Dyadic) (places : Nat) : List Char × List Char :=
  let exact := min places 1100
  let digits := paddedText (exact + 1) (value.roundScaled exact)
  let whole := digits.length - exact
  (digits.take whole, digits.drop whole ++ List.replicate (places - exact) '0')

/-- Parts of a number joined by a point, which is left out if nothing follows it. -/
def joinPoint (parts : List Char × List Char) : List Char :=
  if parts.2.isEmpty then parts.1 else parts.1 ++ '.' :: parts.2

/-- The magnitude by its shortest digits: positional from `10 ^ -4` up to `10 ^ 16`, always with a
digit after the point, otherwise with an exponent. -/
def shortestText (value : Dyadic) : List Char :=
  let number := shortest value
  if -4 < number.point ∧ number.point ≤ 16 then
    let (before, after) := number.positional
    before ++ '.' :: (if after.isEmpty then ['0'] else after)
  else
    let digits := digitChars number.digits
    joinPoint (digits.take 1, digits.drop 1) ++ 'e' :: exponentText (number.point - 1)

end Decimal

/-- The text of a floating-point number: the fewest digits that read back as the same number. -/
def floatText (x : Float) : String :=
  match Decimal.Binary64.ofFloat x with
  | .nan => "nan"
  | .infinite negative => if negative then "-inf" else "inf"
  | .finite value =>
      String.ofList ((if value.negative then ['-'] else []) ++ Decimal.shortestText value)

end RequestLog
