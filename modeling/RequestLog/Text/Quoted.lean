import RequestLog.Text.Digit
import RequestLog.Text.Printable

/-!
# Quoted text

A quoted text stands between single quotes, or between double quotes if it holds single quotes and
no double ones.  The quote, the backslash and the characters that are not printable are escaped; a
printable character is written as it is.
-/

namespace RequestLog
namespace Text

/-- The quote that needs fewer escapes; single quotes are preferred. -/
def quoteFor (text : List Char) : Char :=
  if text.contains '\'' && !text.contains '"' then '"' else '\''

/-- The escape of a code point by the fewest of two, four or eight hexadecimal digits. -/
def escapeCode (code : Nat) : List Char :=
  if code < 0x100 then '\\' :: 'x' :: hexDigits 2 code
  else if code < 0x10000 then '\\' :: 'u' :: hexDigits 4 code
  else '\\' :: 'U' :: hexDigits 8 code

/-- The escape of the characters that have a letter of their own. -/
def escapeControl? : Char → Option (List Char)
  | '\\' => some ['\\', '\\']
  | '\n' => some ['\\', 'n']
  | '\r' => some ['\\', 'r']
  | '\t' => some ['\\', 't']
  | _ => none

/-- One character between quotes; `shown` says which characters are written as they are. -/
def quoteChar (shown : Char → Bool) (quote c : Char) : List Char :=
  if c = quote then ['\\', c]
  else
    match escapeControl? c with
    | some escape => escape
    | none => if shown c then [c] else escapeCode c.toNat

/-- A text between quotes. -/
def quoteChars (shown : Char → Bool) (text : List Char) : List Char :=
  let quote := quoteFor text
  quote :: text.flatMap (quoteChar shown quote) ++ [quote]

/-- A string between quotes; printable characters are written as they are. -/
def quoted (text : String) : String :=
  String.ofList (quoteChars isPrintable text.toList)

/-- A string between quotes; of the printable characters only ASCII is written as it is. -/
def quotedAscii (text : String) : String :=
  String.ofList (quoteChars (fun c => 32 ≤ c.toNat && c.toNat < 127) text.toList)

end Text
end RequestLog
