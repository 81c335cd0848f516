import RequestLog.Fault
import RequestLog.Text.Blank

/-!
# Reading integers

An integer text is a sign, which may be missing, and digits with single underscores between them.
The digits may be of any script, and blanks around the text are ignored.  A defect of the digits is
found before their number, and their number before what stands behind them.
-/

namespace RequestLog
namespace Decimal

/-- The sign in front of a text, and the rest. -/
def splitSign : List Char → Bool × List Char
  | '-' :: rest => (true, rest)
  | '+' :: rest => (false, rest)
  | text => (false, text)

/-- The integer that digits write. -/
def digitsValue (digits : List Nat) : Nat :=
  digits.foldl (fun value digit => value * 10 + digit) 0

/-- The integer of a sign and digits. -/
def signedValue (negative : Bool) (digits : List Nat) : Int :=
  if negative then -(digitsValue digits : Int) else digitsValue digits

/-- The greatest number of digits that are read. -/
def digitLimit : Nat := 4300

/-- A character that belongs to the digits of an integer. -/
def isDigitOrUnderscore (c : Char) : Bool :=
  c == '_' || (Text.digitValue? c).isSome

/-- Underscores stand alone and between digits. -/
def underscoresApart : List Char → Bool
  | [] => false
  | ['_'] => false
  | '_' :: '_' :: _ => false
  | [_] => true
  | _ :: rest => underscoresApart rest

/-- The values of the digits at the beginning of a text, and what follows them.  There are none if
an underscore is out of place. -/
def leadingDigits? (text : List Char) : Option (List Nat × List Char) :=
  let run := text.takeWhile isDigitOrUnderscore
  if run.head? = some '_' ∨ !underscoresApart run then none
  else some (run.filterMap Text.digitValue?, text.dropWhile isDigitOrUnderscore)

/-- The integer that a text writes. -/
def readInteger (text : String) : Except Fault Int :=
  let (negative, rest) := splitSign (Text.trim text.toList)
  match leadingDigits? rest with
  | none => .error (.notInteger text)
  | some (digits, after) =>
      if digitLimit < digits.length then .error (.tooManyDigits digits.length)
      else if after.isEmpty then .ok (signedValue negative digits)
      else .error (.notInteger text)

end Decimal
end RequestLog
