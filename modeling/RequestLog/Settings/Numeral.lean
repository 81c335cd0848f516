import RequestLog.Decimal.Reading
import RequestLog.Settings.Problem
import RequestLog.Text.Pieces

/-!
# Integer texts of settings

A plain text is digits that do not begin with a zero, or a single zero, with a minus sign at most;
its digits are ASCII digits.  A text that is not plain is cleaned once: what may be left out without
doubt goes, and the rest has to be plain.
-/

namespace RequestLog
namespace Settings

/-- What a text is when it is taken as a plain integer. -/
inductive Numeral where
  /-- An integer. -/
  | number (value : Int)
  /-- Digits, but more of them than are read. -/
  | oversized
  /-- Not a plain integer. -/
  | malformed
  deriving DecidableEq, Repr

namespace Numeral

/-- A minus sign in front of a text, and the rest. -/
def splitMinus : List Char → Bool × List Char
  | '-' :: rest => (true, rest)
  | text => (false, text)

/-- The digits of a number: they are not missing, and only a single one of them may begin with
zero. -/
def wellBegun : List Char → Bool
  | [] => false
  | ['0'] => true
  | '0' :: _ => false
  | _ => true

/-- Take a text as a plain integer.  Too many digits are found before what stands behind them. -/
def ofPlain (text : List Char) : Numeral :=
  let (negative, rest) := splitMinus text
  let digits := rest.takeWhile Char.isDigit
  if !wellBegun digits then malformed
  else if Decimal.digitLimit < digits.length then oversized
  else if digits.length < rest.length then malformed
  else number (Decimal.signedValue negative (digits.filterMap Text.asciiDigit?))

/-- The text without a plus sign in front; a plus sign before a minus sign is none. -/
def withoutPlus? : List Char → Option (List Char)
  | '+' :: '-' :: _ => none
  | '+' :: rest => some rest
  | text => some text

/-- What is left of a text behind zeros and underscores, of which `last` is the last one so far.
That one stays if nothing or a point follows; otherwise a digit or a minus sign has to follow. -/
def behindZeros? (last : Char) : List Char → Option (List Char)
  | [] => some [last]
  | c :: rest =>
      if c = '0' ∨ c = '_' then behindZeros? c rest
      else if c.isDigit ∨ c = '-' then some (c :: rest)
      else if c = '.' then some (last :: c :: rest)
      else none

/-- The text without the zeros in front; it has to begin with a digit or a minus sign. -/
def withoutZeros? : List Char → Option (List Char)
  | [] => none
  | '0' :: rest => behindZeros? '0' rest
  | c :: rest => if c.isDigit ∨ c = '-' then some (c :: rest) else none

/-- The text without a point and the zeros behind it, if nothing else is there behind the point. -/
def withoutZeroTail (text : List Char) : List Char :=
  match Text.halves '.' text with
  | (whole, some tail) => if !tail.isEmpty && tail.all (· == '0') then whole else text
  | (_, none) => text

/-- Two underscores stand side by side. -/
def hasDoubleUnderscore : List Char → Bool
  | '_' :: '_' :: _ => true
  | _ :: rest => hasDoubleUnderscore rest
  | [] => false

/-- The text without its underscores, provided that they stand alone and inside of it. -/
def withoutUnderscores (text : List Char) : List Char :=
  if text.head? = some '_' ∨ text.getLast? = some '_' ∨ hasDoubleUnderscore text then text
  else text.filter (· ≠ '_')

/-- The text without what may be left out: white space around it, a plus sign, zeros in front, a
tail of zeros behind a point, and underscores.  A minus sign in front is set aside meanwhile, so the
zeros behind it go too. -/
def cleaned? (text : List Char) : Option (List Char) := do
  let (negative, unsigned) := splitMinus (← withoutPlus? (Text.trimBy Text.isWhiteSpace text))
  let significant := withoutUnderscores (withoutZeroTail (← withoutZeros? unsigned))
  return if negative then '-' :: significant else significant

/-- Read a text as an integer: as it stands or, unless it has too many digits, cleaned. -/
def read (text : List Char) : Except Problem Int :=
  match ofPlain text with
  | number value => .ok value
  | oversized => .error .oversizedInteger
  | malformed =>
      match (cleaned? text).map ofPlain with
      | some (number value) => .ok value
      | _ => .error .unreadableInteger

end Numeral
end Settings
end RequestLog
