import RequestLog.Fault

/-!
# Writing JSON

Values are written on one line in printable ASCII: a blank after each comma and colon, entries in
order, everything outside printable ASCII escaped in units of sixteen bits.  Octets, which JSON does
not have, are written as the text that shows them.
-/

namespace RequestLog
namespace Json

/-- The escape of a unit of sixteen bits. -/
def escapeUnit (unit : Nat) : List Char :=
  '\\' :: 'u' :: Text.hexDigits 4 unit

/-- The escape of a character outside printable ASCII; beyond the basic plane it takes two units. -/
def escapeChar (c : Char) : List Char :=
  let code := c.toNat
  if code < 0x10000 then escapeUnit code
  else
    escapeUnit (0xD800 + (code - 0x10000) / 0x400) ++ escapeUnit (0xDC00 + (code - 0x10000) % 0x400)

/-- One character inside a JSON text. -/
def writeChar (c : Char) : List Char :=
  if c = '"' then ['\\', '"']
  else if c = '\\' then ['\\', '\\']
  else if c = '\n' then ['\\', 'n']
  else if c = '\r' then ['\\', 'r']
  else if c = '\t' then ['\\', 't']
  else if c = '\x0c' then ['\\', 'f']
  else if c = '\x08' then ['\\', 'b']
  else if 32 ≤ c.toNat ∧ c.toNat < 127 then [c]
  else escapeChar c

/-- A text between double quotes. -/
def writeText (text : String) : List Char :=
  '"' :: text.toList.flatMap writeChar ++ ['"']

/-- The number of a floating-point value; the values that are not finite have names. -/
def numberText (x : Float) : String :=
  match Decimal.Binary64.ofFloat x with
  | .nan => "NaN"
  | .infinite negative => if negative then "-Infinity" else "Infinity"
  | .finite _ => floatText x

/-- The text of a key.  Only texts, numbers, truth values and the absent value are keys. -/
def keyText : Value → Except Fault String
  | .str text => .ok text
  | .int n => .ok (toString n)
  | .float x => .ok (numberText x)
  | .bool b => .ok (if b then "true" else "false")
  | .null => .ok "null"
  | other => .error (.badObjectKey other.typeName)

/-- Pieces of text with a comma and a blank between them. -/
def commaSeparated : List (List Char) → List Char
  | [] => []
  | [piece] => piece
  | piece :: others => piece ++ ',' :: ' ' :: commaSeparated others

mutual

/-- A value as JSON. -/
def write : Value → Except Fault (List Char)
  | .null => .ok ['n', 'u', 'l', 'l']
  | .bool b => .ok (if b then ['t', 'r', 'u', 'e'] else ['f', 'a', 'l', 's', 'e'])
  | .int n => .ok (toString n).toList
  | .float x => .ok (numberText x).toList
  | .str text => .ok (writeText text)
  | .bytes octets => .ok (writeText octets.quoted)
  | .list items => do
      let pieces ← writeItems items
      return '[' :: commaSeparated pieces ++ [']']
  | .tuple items => do
      let pieces ← writeItems items
      return '[' :: commaSeparated pieces ++ [']']
  | .dict entries => do
      let pieces ← writeEntries entries
      return '\x7b' :: commaSeparated pieces ++ ['\x7d']

/-- The items of a list as JSON. -/
def writeItems : List Value → Except Fault (List (List Char))
  | [] => .ok []
  | item :: rest => do
      let first ← write item
      let others ← writeItems rest
      return first :: others

/-- The entries of a mapping as JSON. -/
def writeEntries : List (Value × Value) → Except Fault (List (List Char))
  | [] => .ok []
  | (key, value) :: rest => do
      let name ← keyText key
      let content ← write value
      let others ← writeEntries rest
      return (writeText name ++ ':' :: ' ' :: content) :: others

end

end Json
end RequestLog
