import RequestLog.Value

/-!
# Reading JSON

A reader for JSON texts.  A number without fraction and exponent is an integer of any size, every
other number is a floating-point number; the names of the numbers that are not finite are read too.
A name that occurs twice in an object keeps its first place and its last value.  A text in which a
unit of a surrogate pair stands alone is no text; it is read as octets that encode no text either.
-/

namespace RequestLog
namespace Json

/-- White space between the parts of a JSON text. -/
def isSpace (c : Char) : Bool :=
  c == ' ' || c == '\t' || c == '\n' || c == '\r'

/-- The text without the white space in front. -/
def skipSpace (text : List Char) : List Char :=
  text.dropWhile isSpace

/-- The value of a hexadecimal digit. -/
def hexValue? (c : Char) : Option Nat :=
  if '0' ≤ c ∧ c ≤ '9' then some (c.toNat - 48)
  else if 'a' ≤ c ∧ c ≤ 'f' then some (c.toNat - 87)
  else if 'A' ≤ c ∧ c ≤ 'F' then some (c.toNat - 55)
  else none

/-- The unit that four hexadecimal digits write. -/
def unit? (a b c d : Char) : Option Nat := do
  return (((← hexValue? a) * 16 + (← hexValue? b)) * 16 + (← hexValue? c)) * 16 + (← hexValue? d)

/-- The first unit of a surrogate pair. -/
def isHighUnit (unit : Nat) : Bool :=
  0xD800 ≤ unit && unit < 0xDC00

/-- The second unit of a surrogate pair. -/
def isLowUnit (unit : Nat) : Bool :=
  0xDC00 ≤ unit && unit < 0xE000

/-- The code point of a surrogate pair. -/
def pairedUnits (high low : Nat) : Nat :=
  0x10000 + (high - 0xD800) * 0x400 + (low - 0xDC00)

/-- The character that a letter after a backslash stands for. -/
def escaped? : Char → Option Char
  | '"' => some '"'
  | '\\' => some '\\'
  | '/' => some '/'
  | 'b' => some '\x08'
  | 'f' => some '\x0c'
  | 'n' => some '\n'
  | 'r' => some '\r'
  | 't' => some '\t'
  | _ => none

/-- The second unit of a pair, if its escape stands at the beginning of the text. -/
def lowUnitAhead? : List Char → Option (Nat × List Char)
  | '\\' :: 'u' :: a :: b :: c :: d :: rest =>
      match unit? a b c d with
      | some unit => if isLowUnit unit then some (unit, rest) else none
      | none => none
  | _ => none

/-- The code point of one character of a text, written as itself or escaped, and what follows it.  A
unit of a surrogate pair that stands alone counts as a code point of its own. -/
def readCode? : List Char → Option (Nat × List Char)
  | '\\' :: 'u' :: a :: b :: c :: d :: rest =>
      match unit? a b c d with
      | none => none
      | some unit =>
          match if isHighUnit unit then lowUnitAhead? rest else none with
          | some (low, after) => some (pairedUnits unit low, after)
          | none => some (unit, rest)
  | '\\' :: c :: rest => (escaped? c).map fun meant => (meant.toNat, rest)
  | c :: rest => if c.toNat < 32 ∨ c = '\\' then none else some (c.toNat, rest)
  | [] => none

/-- The code points of a text up to its closing quote, and what follows the quote. -/
def readCodes? : Nat → List Char → Option (List Nat × List Char)
  | 0, _ => none
  | _ + 1, '"' :: rest => some ([], rest)
  | fuel + 1, text => do
      let (code, rest) ← readCode? text
      let (others, after) ← readCodes? fuel rest
      return (code :: others, after)

/-- The octets of a unit of a surrogate pair, as if it were a character, and of any other code
point. -/
def octetsOf (code : Nat) : Octets :=
  if isHighUnit code || isLowUnit code then
    [0xED, UInt8.ofNat (0x80 + code / 64 % 64), UInt8.ofNat (0x80 + code % 64)]
  else Octets.ofText (String.singleton (Char.ofNat code))

/-- The text of code points, or its octets if a unit of a surrogate pair stands alone in it. -/
def textOf (codes : List Nat) : Value :=
  if codes.any fun code => isHighUnit code || isLowUnit code then .bytes (codes.flatMap octetsOf)
  else .str (String.ofList (codes.map Char.ofNat))

/-- A text behind its opening quote, and what follows it. -/
def readText? (text : List Char) : Option (Value × List Char) :=
  (readCodes? (text.length + 1) text).map fun found => (textOf found.1, found.2)

/-- The integer that decimal digits write. -/
def digitsValue (digits : List Char) : Nat :=
  digits.foldl (fun value digit => value * 10 + (digit.toNat - 48)) 0

/-- A run of decimal digits, and what follows it. -/
def readDigits (text : List Char) : List Char × List Char :=
  (text.takeWhile Char.isDigit, text.dropWhile Char.isDigit)

/-- The digits after a point, if a point with digits follows. -/
def readFraction? : List Char → Option (List Char × List Char)
  | '.' :: rest =>
      match readDigits rest with
      | ([], _) => none
      | found => some found
  | _ => none

/-- The sign of an exponent, and what follows it. -/
def readSign : List Char → Bool × List Char
  | '-' :: rest => (true, rest)
  | '+' :: rest => (false, rest)
  | text => (false, text)

/-- An exponent of ten, if one follows. -/
def readExponent? : List Char → Option (Int × List Char)
  | c :: rest =>
      if c = 'e' ∨ c = 'E' then
        let (negative, after) := readSign rest
        match readDigits after with
        | ([], _) => none
        | (digits, remaining) =>
            let value : Int := digitsValue digits
            some (if negative then -value else value, remaining)
      else none
  | [] => none

/-- The digits before the point: a single zero, or digits that do not begin with zero. -/
def readWhole? : List Char → Option (List Char × List Char)
  | '0' :: rest => some (['0'], rest)
  | text =>
      match readDigits text with
      | ([], _) => none
      | found => some found

/-- The longest integer that is read. -/
def digitLimit : Nat := 4300

/-- A number after its sign, and what follows it. -/
def readMagnitude? (negative : Bool) (text : List Char) : Option (Value × List Char) := do
  let (whole, afterWhole) ← readWhole? text
  let fraction := readFraction? afterWhole
  let afterFraction := (fraction.map Prod.snd).getD afterWhole
  let exponent := readExponent? afterFraction
  match fraction, exponent with
  | none, none =>
      if digitLimit < whole.length then none
      else
        let value : Int := digitsValue whole
        return (.int (if negative then -value else value), afterWhole)
  | _, _ =>
      let places := (fraction.map Prod.fst).getD []
      let scale := (exponent.map Prod.fst).getD 0 - (places.length : Int)
      let value := Decimal.floatOfDecimal negative (digitsValue (whole ++ places)) scale
      return (.float value, (exponent.map Prod.snd).getD afterFraction)

/-- The rest of a text after a word it begins with. -/
def afterWord? (word : List Char) (text : List Char) : Option (List Char) :=
  if word.isPrefixOf text then some (text.drop word.length) else none

/-- The words that stand for a value. -/
def words : List (List Char × Value) :=
  [("null".toList, .null), ("true".toList, .bool true), ("false".toList, .bool false),
    ("NaN".toList, .float (0 / 0)), ("Infinity".toList, .float (1 / 0)),
    ("-Infinity".toList, .float (-1 / 0))]

/-- A value that is written by a word or a number, and what follows it. -/
def readScalar? (text : List Char) : Option (Value × List Char) :=
  let word := words.findSome? fun entry =>
    (afterWord? entry.1 text).map fun rest => (entry.2, rest)
  word <|>
    match text with
    | '-' :: rest => readMagnitude? true rest
    | _ => readMagnitude? false text

mutual

/-- A value after white space, and what follows it. -/
def readValue? : Nat → List Char → Option (Value × List Char)
  | 0, _ => none
  | fuel + 1, text =>
      match skipSpace text with
      | '"' :: rest => readText? rest
      | '[' :: rest =>
          match skipSpace rest with
          | ']' :: after => some (.list [], after)
          | _ => do
              let (items, after) ← readItems? fuel rest
              return (.list items, after)
      | '\x7b' :: rest =>
          match skipSpace rest with
          | '\x7d' :: after => some (.dict [], after)
          | _ => do
              let (entries, after) ← readEntries? fuel rest
              return (Value.ofEntries entries, after)
      | scalar => readScalar? scalar

/-- The items of a list up to its closing bracket. -/
def readItems? : Nat → List Char → Option (List Value × List Char)
  | 0, _ => none
  | fuel + 1, text => do
      let (item, after) ← readValue? fuel text
      match skipSpace after with
      | ']' :: rest => return ([item], rest)
      | ',' :: rest =>
          let (others, final) ← readItems? fuel rest
          return (item :: others, final)
      | _ => none

/-- The entries of an object up to its closing brace. -/
def readEntries? : Nat → List Char → Option (List (Value × Value) × List Char)
  | 0, _ => none
  | fuel + 1, text =>
      match skipSpace text with
      | '"' :: rest => do
          let (name, afterName) ← readText? rest
          match skipSpace afterName with
          | ':' :: content => do
              let (value, after) ← readValue? fuel content
              let entry := (name, value)
              match skipSpace after with
              | '\x7d' :: final => return ([entry], final)
              | ',' :: more =>
                  let (others, final) ← readEntries? fuel more
                  return (entry :: others, final)
              | _ => none
          | _ => none
      | _ => none

end

/-- The value that a JSON text writes. -/
def read? (text : String) : Option Value :=
  match readValue? (text.toList.length + 1) text.toList with
  | some (value, rest) => if (skipSpace rest).isEmpty then some value else none
  | none => none

end Json
end RequestLog
