/-!
# Binary fractions and the numbers of the 64-bit format

A finite number of the 64-bit floating-point format is a sign and `mantissa * 2 ^ exponent`.
Reading a bit pattern gives that fraction exactly, and `nearestMagnitude` gives the pattern of the
number nearest to a quotient, so every conversion between decimal text and a floating-point number
is exact arithmetic on natural numbers with one rounding.
-/

namespace RequestLog
namespace Decimal

/-- A power of two. -/
def twoTo (exponent : Nat) : Nat :=
  Nat.pow 2 exponent

/-- A power of ten. -/
def tenTo (exponent : Nat) : Nat :=
  Nat.pow 10 exponent

/-- The first integer beyond the signed integers of sixty-four bits. -/
def wordLimit : Int := 9223372036854775808

/-- The quotient rounded to the nearest integer; a half goes to the even neighbour. -/
def roundDiv (numerator denominator : Nat) : Nat :=
  let quotient := numerator / denominator
  let double := 2 * (numerator % denominator)
  if double < denominator then quotient
  else if double = denominator then quotient + quotient % 2
  else quotient + 1

/-- A signed fraction whose denominator is a power of two. -/
structure Dyadic where
  /-- The number carries a minus sign; zero may carry one too. -/
  negative : Bool
  /-- The magnitude before scaling. -/
  mantissa : Nat
  /-- The power of two that scales the magnitude. -/
  exponent : Int
  deriving DecidableEq, Repr

namespace Dyadic

/-- Numerator of the magnitude. -/
def numerator (value : Dyadic) : Nat :=
  value.mantissa * twoTo value.exponent.toNat

/-- Denominator of the magnitude, a power of two. -/
def denominator (value : Dyadic) : Nat :=
  twoTo (-value.exponent).toNat

/-- The magnitude is an integer. -/
def isWhole (value : Dyadic) : Bool :=
  value.numerator % value.denominator = 0

/-- The magnitude without its fractional part. -/
def wholePart (value : Dyadic) : Nat :=
  value.numerator / value.denominator

/-- The number without its fractional part. -/
def truncated (value : Dyadic) : Int :=
  if value.negative then -(value.wholePart : Int) else value.wholePart

/-- The magnitude times a power of ten, rounded to an integer. -/
def roundScaled (value : Dyadic) (places : Nat) : Nat :=
  roundDiv (value.numerator * tenTo places) value.denominator

end Dyadic

/-- A number of the 64-bit format. -/
inductive Binary64 where
  /-- Not a number. -/
  | nan
  /-- An infinity with its sign. -/
  | infinite (negative : Bool)
  /-- A finite number. -/
  | finite (value : Dyadic)
  deriving DecidableEq, Repr

namespace Binary64

/-- Read a bit pattern: sign, eleven bits of exponent, fifty-two bits of fraction. -/
def ofBits (bits : Nat) : Binary64 :=
  let negative := decide (bits / twoTo 63 % 2 = 1)
  let field : Nat := bits / twoTo 52 % 2048
  let fraction : Nat := bits % twoTo 52
  if field = 2047 then
    if fraction = 0 then infinite negative else nan
  else if field = 0 then
    finite ⟨negative, fraction, -1074⟩
  else
    finite ⟨negative, fraction + twoTo 52, (field : Int) - 1075⟩

/-- The number that a machine value stands for. -/
def ofFloat (x : Float) : Binary64 :=
  ofBits x.toBits.toNat

end Binary64

/-- The quotient divided by a power of two, rounded to an integer. -/
def roundScaledDown (numerator denominator : Nat) (exponent : Int) : Nat :=
  roundDiv (numerator * twoTo (-exponent).toNat) (denominator * twoTo exponent.toNat)

/-- The exponent at which a positive quotient has a mantissa of fifty-three bits, or the least
exponent of the format if the quotient is smaller. -/
def mantissaExponent (numerator denominator : Nat) : Int :=
  let estimate : Int := (numerator.log2 : Int) - denominator.log2 - 53
  let whole := numerator * twoTo (-estimate).toNat / (denominator * twoTo estimate.toNat)
  max (if whole < twoTo 53 then estimate else estimate + 1) (-1074)

/-- Bit pattern of the nonnegative number nearest to a quotient, ties to even; beyond the largest
finite number it is infinity. -/
def nearestMagnitude (numerator denominator : Nat) : Nat :=
  if numerator = 0 then 0
  else
    let exponent := mantissaExponent numerator denominator
    let mantissa := roundScaledDown numerator denominator exponent
    if mantissa < twoTo 52 then mantissa
    else min ((exponent + 1074).toNat * twoTo 52 + mantissa) (2047 * twoTo 52)

/-- The machine value with the given sign and magnitude pattern. -/
def ofMagnitude (negative : Bool) (magnitude : Nat) : Float :=
  Float.ofBits (UInt64.ofNat (if negative then magnitude + twoTo 63 else magnitude))

/-- Bit pattern of infinity. -/
def infinityMagnitude : Nat := 2047 * twoTo 52

/-- The machine value nearest to an integer, infinite if the integer is too large. -/
def floatOfInt (n : Int) : Float :=
  ofMagnitude (n < 0) (nearestMagnitude n.natAbs 1)

/-- The machine value nearest to an integer; an integer that rounds to infinity has none. -/
def floatOfInt? (n : Int) : Option Float :=
  let magnitude := nearestMagnitude n.natAbs 1
  if magnitude < infinityMagnitude then some (ofMagnitude (n < 0) magnitude) else none

/-- The machine value nearest to `digits * 10 ^ exponent`.  Exponents far outside the range of the
format are decided by the number of digits alone. -/
def floatOfDecimal (negative : Bool) (digits : Nat) (exponent : Int) : Float :=
  let places := ((Nat.toDigits 10 digits).length : Int) + exponent
  let magnitude :=
    if digits = 0 ∨ places < -400 then 0
    else if 400 < places then infinityMagnitude
    else nearestMagnitude (digits * tenTo exponent.toNat) (tenTo (-exponent).toNat)
  ofMagnitude negative magnitude

end Decimal
end RequestLog
