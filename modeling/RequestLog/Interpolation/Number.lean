import RequestLog.Capacity
import RequestLog.Value.Access

/-!
# Numbers in message templates

How a place of a message template writes a number: integers in base ten, eight or sixteen with a
least number of digits, and floating-point numbers with a fixed number of places, with an exponent,
or by a number of significant digits in whichever of the two forms is shorter.
-/

namespace RequestLog
namespace Interpolation

/-- The digits of a magnitude in a base. -/
def baseDigits (base : Nat) (magnitude : Nat) : List Char :=
  Nat.toDigits base magnitude

/-- Most digits that an integer can be given. -/
def digitLimit : Nat := 2147483644

/-- An integer with a least number of digits; `lead` stands between the sign and the digits. -/
def integerText (n : Int) (base : Nat) (lead : List Char) (least : Nat) :
    Except Fault (List Char) :=
  if digitLimit < least then .error .hugeDigits
  else do
    ensureRoom least
    return (if n < 0 then ['-'] else []) ++ lead
      ++ Decimal.padZeros least (baseDigits base n.natAbs)

/-- Enough significant digits for every magnitude; all further ones are zeros. -/
def exactDigits : Nat := 1100

/-- Digits before and after the point of a magnitude with one digit before it, and the exponent. -/
def scientificParts (value : Decimal.Dyadic) (places : Nat) : List Char × List Char × Int :=
  if value.mantissa = 0 then (['0'], List.replicate places '0', 0)
  else
    let exact := min places exactDigits
    let number := Decimal.significant value (exact + 1)
    let digits := Decimal.digitChars number.digits
    (digits.take 1, digits.drop 1 ++ List.replicate (places - exact) '0', number.point - 1)

/-- Join digits by a point; `keepPoint` keeps a point that nothing follows. -/
def withPoint (keepPoint : Bool) (before after : List Char) : List Char :=
  if after.isEmpty then (if keepPoint then before ++ ['.'] else before)
  else before ++ '.' :: after

/-- Most places that can be asked for. -/
def placeLimit : Nat := 2147483647

/-- A magnitude with an exponent.  With the digit before the point there is one digit more than
places; for the most places that is beyond what is counted, and the digit stands alone. -/
def scientificText (value : Decimal.Dyadic) (places : Nat) (keepPoint : Bool) :
    Except Fault (List Char) := do
  let places := if places = placeLimit then 0 else places
  ensureRoom places
  let (before, after, exponent) := scientificParts value places
  return withPoint keepPoint before after ++ 'e' :: Decimal.exponentText exponent

/-- A magnitude with a fixed number of places. -/
def fixedText (value : Decimal.Dyadic) (places : Nat) (keepPoint : Bool) :
    Except Fault (List Char) := do
  ensureRoom places
  let (before, after) := Decimal.fixedPlaces value places
  return withPoint keepPoint before after

/-- Digits without the zeros at the end. -/
def withoutTrailingZeros (digits : List Char) : List Char :=
  (digits.reverse.dropWhile (· == '0')).reverse

/-- A magnitude by its significant digits.  Very small and very large ones have an exponent; zeros
at the end are left out unless `keepZeros`. -/
def generalText (value : Decimal.Dyadic) (digits : Nat) (keepZeros : Bool) :
    Except Fault (List Char) := do
  let count := if keepZeros then max digits 1 else min (max digits 1) exactDigits
  ensureRoom count
  let (before, after, exponent) := scientificParts value (count - 1)
  if -4 ≤ exponent ∧ exponent < count then
    let (whole, fraction) := Decimal.fixedPlaces value ((count : Int) - 1 - exponent).toNat
    return if keepZeros then withPoint true whole fraction
      else withPoint false whole (withoutTrailingZeros fraction)
  else
    return (if keepZeros then withPoint true before after
      else withPoint false before (withoutTrailingZeros after))
      ++ 'e' :: Decimal.exponentText exponent

/-- A finite magnitude as a conversion writes it. -/
def magnitudeText (value : Decimal.Dyadic) (conversion : Char) (precision : Nat)
    (alternate : Bool) : Except Fault (List Char) :=
  match conversion.toLower with
  | 'e' => scientificText value precision alternate
  | 'f' => fixedText value precision alternate
  | _ => generalText value precision alternate

/-- A floating-point number as a conversion writes it. -/
def floatText (x : Float) (conversion : Char) (precision : Nat) (alternate : Bool) :
    Except Fault (List Char) :=
  let sign (negative : Bool) : List Char := if negative then ['-'] else []
  let text :=
    match Decimal.Binary64.ofFloat x with
    | .nan => .ok ['n', 'a', 'n']
    | .infinite negative => .ok (sign negative ++ ['i', 'n', 'f'])
    | .finite value =>
        (magnitudeText value conversion precision alternate).map (sign value.negative ++ ·)
  if conversion.isUpper then text.map (List.map Char.toUpper) else text

/-- A number as an integer, the fractional part dropped. -/
def truncated (conversion : Char) (value : Value) : Except Fault Int :=
  match value with
  | .bool b => .ok (if b then 1 else 0)
  | .int n => .ok n
  | .float x =>
      match Decimal.Binary64.ofFloat x with
      | .finite value => .ok value.truncated
      | .nan => .error .undefinedNumber
      | .infinite _ => .error .infiniteNumber
  | other => .error (.numberExpected conversion other.typeName)

/-- An integer that needs no rounding. -/
def exact (conversion : Char) (value : Value) : Except Fault Int :=
  match value with
  | .bool b => .ok (if b then 1 else 0)
  | .int n => .ok n
  | other => .error (.integerExpected conversion other.typeName)

end Interpolation
end RequestLog
