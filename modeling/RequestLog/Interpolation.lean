import RequestLog.Interpolation.Number

/-!
# Message templates

A log message is a template and arguments.  A place in the template begins with a percent sign and
may name a key of a mapping, flags, a width and a precision before the conversion; the arguments
fill the places in order, and all of them have to be used.  A doubled percent sign stands for
itself.
-/

namespace RequestLog

/-- The arguments of a log message. -/
inductive LogArguments where
  /-- Values that fill the places in order. -/
  | positional (values : List Value)
  /-- A mapping whose entries fill places by key. -/
  | keyed (entries : List (Value × Value))

namespace LogArguments

/-- A single argument that is a mapping with entries fills places by key. -/
def ofList : List Value → LogArguments
  | [.dict (entry :: rest)] => keyed (entry :: rest)
  | values => positional values

/-- There are no arguments at all. -/
def isEmpty : LogArguments → Bool
  | positional values => values.isEmpty
  | keyed entries => entries.isEmpty

end LogArguments

namespace Interpolation

/-- Arguments that have not been used. -/
structure Supply where
  /-- The entries that places take by key, if the arguments are a mapping. -/
  entries : Option (List (Value × Value))
  /-- Values still to be used. -/
  pending : List Value

/-- All arguments, unused. -/
def Supply.of : LogArguments → Supply
  | .positional values => ⟨none, values⟩
  | .keyed entries => ⟨some entries, [.dict entries]⟩

/-- Use the next argument. -/
def Supply.next (supply : Supply) : Except Fault (Value × Supply) :=
  match supply.pending with
  | value :: rest => .ok (value, { supply with pending := rest })
  | [] => .error .tooFewLogArguments

/-- Put the value of a key in front. -/
def Supply.choose (supply : Supply) (key : String) : Except Fault Supply :=
  match supply.entries with
  | none => .error .mappingExpected
  | some entries =>
      match Value.entry? entries key with
      | some value => .ok { supply with pending := [value] }
      | none => .error (.missingEntry (.str key))

/-- How a place is filled. -/
structure Place where
  /-- The text stands at the left of its field. -/
  leftAligned : Bool
  /-- A positive number has a plus sign. -/
  plus : Bool
  /-- A positive number has a blank in place of a sign. -/
  blank : Bool
  /-- The alternate form of the conversion. -/
  alternate : Bool
  /-- A number is padded with zeros. -/
  zeros : Bool
  /-- Least width. -/
  width : Nat
  /-- Places, digits or characters. -/
  precision : Option Nat

/-- A place without flags, width and precision. -/
def Place.bare : Place :=
  { leftAligned := false
    plus := false
    blank := false
    alternate := false
    zeros := false
    width := 0
    precision := none }

/-- Read the flags. -/
def readFlags (place : Place) : List Char → Place × List Char
  | '-' :: rest => readFlags { place with leftAligned := true } rest
  | '+' :: rest => readFlags { place with plus := true } rest
  | ' ' :: rest => readFlags { place with blank := true } rest
  | '#' :: rest => readFlags { place with alternate := true } rest
  | '0' :: rest => readFlags { place with zeros := true } rest
  | rest => (place, rest)

/-- The key between parentheses, which may be nested, and what follows it; `depth` counts the
parentheses that are open. -/
def readKey? (depth : Nat) : List Char → Option (List Char × List Char)
  | [] => none
  | ')' :: rest =>
      match depth with
      | 0 => some ([], rest)
      | depth + 1 => (readKey? depth rest).map fun found => (')' :: found.1, found.2)
  | '(' :: rest => (readKey? (depth + 1) rest).map fun found => ('(' :: found.1, found.2)
  | c :: rest => (readKey? depth rest).map fun found => (c :: found.1, found.2)

/-- Most that a width can be. -/
def widthLimit : Nat := 9223372036854775807

/-- A number written in the template, and what follows it. -/
def readNumber (text : List Char) : Nat × List Char :=
  ((text.takeWhile Char.isDigit).foldl (fun value c => value * 10 + (c.toNat - 48)) 0,
    text.dropWhile Char.isDigit)

/-- The integer that the next argument gives for a width or a precision, which is at most `limit`
or, counted from below zero, one more. -/
def starValue (limit : Nat) (supply : Supply) : Except Fault (Int × Supply) := do
  let (value, supply) ← supply.next
  match value with
  | .int n =>
      if -(limit : Int) - 1 ≤ n ∧ n ≤ limit then return (n, supply)
      else .error .uncountable
  | .bool b => return (if b then 1 else 0, supply)
  | _ => .error .widthExpected

/-- The width that an argument asks for.  Nothing is as far above zero as the least argument is
below, which asks for none. -/
def starWidth (n : Int) : Nat :=
  if widthLimit < n.natAbs then 0 else n.natAbs

/-- Read the width; a negative one from an argument aligns to the left. -/
def readWidth (place : Place) (supply : Supply) (text : List Char) :
    Except Fault (Place × Supply × List Char) :=
  match text with
  | '*' :: rest => do
      let (n, supply) ← starValue widthLimit supply
      return ({ place with width := starWidth n, leftAligned := place.leftAligned || n < 0 },
        supply, rest)
  | _ =>
      let (n, rest) := readNumber text
      if widthLimit < n then .error .hugeWidth else .ok ({ place with width := n }, supply, rest)

/-- Read the precision behind a point, if there is one; without a number it is zero. -/
def readPrecision (place : Place) (supply : Supply) (text : List Char) :
    Except Fault (Place × Supply × List Char) :=
  match text with
  | '.' :: '*' :: rest => do
      let (n, supply) ← starValue placeLimit supply
      return ({ place with precision := some n.toNat }, supply, rest)
  | '.' :: rest =>
      let (n, rest) := readNumber rest
      if placeLimit < n then .error .hugePlaces
      else .ok ({ place with precision := some n }, supply, rest)
  | _ => .ok (place, supply, text)

/-- Leave out a letter that says how long a number is. -/
def skipLength : List Char → List Char
  | 'h' :: rest => rest
  | 'l' :: rest => rest
  | 'L' :: rest => rest
  | rest => rest

/-- The sign of a number's text, and the rest. -/
def splitSign (place : Place) (text : List Char) : List Char × List Char :=
  match text with
  | '-' :: rest => (['-'], rest)
  | '+' :: rest => (['+'], rest)
  | _ => (if place.plus then ['+'] else if place.blank then [' '] else [], text)

/-- Pad a number to the width of its place: zeros go behind the sign and `lead`, blanks in front of
them or, aligned to the left, behind. -/
def padNumber (place : Place) (lead text : List Char) : Except Fault (List Char) := do
  ensureRoom place.width
  let (sign, digits) := splitSign place text
  let digits := digits.drop lead.length
  let missing := place.width - (sign.length + lead.length + digits.length)
  return if place.leftAligned then sign ++ lead ++ digits ++ List.replicate missing ' '
    else if place.zeros then sign ++ lead ++ List.replicate missing '0' ++ digits
    else List.replicate missing ' ' ++ sign ++ lead ++ digits

/-- Pad a text to the width of its place. -/
def padText (place : Place) (text : List Char) : Except Fault (List Char) := do
  ensureRoom place.width
  let missing := place.width - text.length
  return if place.leftAligned then text ++ List.replicate missing ' '
    else List.replicate missing ' ' ++ text

/-- Cut a text to the precision of its place. -/
def cutText (place : Place) (text : String) : List Char :=
  match place.precision with
  | some count => text.toList.take count
  | none => text.toList

/-- The text of a value with everything outside ASCII escaped. -/
def asciiText (value : Value) : String :=
  String.ofList (value.shown.toList.flatMap fun c =>
    if c.toNat < 128 then [c] else Text.escapeCode c.toNat)

/-- The single character that a value gives. -/
def character (value : Value) : Except Fault (List Char) :=
  match value with
  | .str text => if text.length = 1 then .ok text.toList else .error .characterExpected
  | .int n => if 0 ≤ n ∧ n < 0x110000 then .ok [Char.ofNat n.toNat] else .error .noCharacter
  | .bool b => .ok [Char.ofNat (if b then 1 else 0)]
  | _ => .error .characterExpected

/-- What stands between sign and digits of an integer in the alternate form. -/
def leadOf (place : Place) (conversion : Char) : List Char :=
  if place.alternate then ['0', conversion] else []

/-- Fill a place with a value; `position` is where the conversion stands. -/
def fill (place : Place) (conversion : Char) (position : Nat) (value : Value) :
    Except Fault (List Char) :=
  let least := place.precision.getD 0
  match conversion with
  | 's' => padText place (cutText place value.text)
  | 'r' => padText place (cutText place value.shown)
  | 'a' => padText place (cutText place (asciiText value))
  | 'c' => character value >>= padText place
  | 'd' => decimal least
  | 'i' => decimal least
  | 'u' => decimal least
  | 'o' => based 8 least
  | 'x' => based 16 least
  | 'X' => do return (← based 16 least).map Char.toUpper
  | 'e' => real
  | 'E' => real
  | 'f' => real
  | 'F' => real
  | 'g' => real
  | 'G' => real
  | _ => .error (.unknownConversion conversion position)
where
  /-- An integer in base ten. -/
  decimal (least : Nat) : Except Fault (List Char) := do
    let n ← truncated conversion value
    padNumber place [] (← integerText n 10 [] least)
  /-- An integer in another base. -/
  based (base least : Nat) : Except Fault (List Char) := do
    let n ← exact conversion value
    let lead := leadOf place conversion
    padNumber place lead (← integerText n base lead least)
  /-- A floating-point number. -/
  real : Except Fault (List Char) := do
    let x ← value.asFloat
    padNumber place [] (← floatText x conversion (place.precision.getD 6) place.alternate)

/-- Read the key of a place, if it has one. -/
def chooseKey (supply : Supply) (text : List Char) : Except Fault (Supply × List Char) :=
  match text with
  | '(' :: rest =>
      if supply.entries.isNone then .error .mappingExpected
      else
        match readKey? 0 rest with
        | none => .error .unfinishedKey
        | some (key, rest) => do
            let supply ← supply.choose (String.ofList key)
            return (supply, rest)
  | _ => .ok (supply, text)

/-- Fill the place that begins behind a percent sign.  `size` is the length of the template. -/
def fillNext (size : Nat) (supply : Supply) (text : List Char) :
    Except Fault (List Char × Supply × List Char) := do
  let (supply, text) ← chooseKey supply text
  let (place, text) := readFlags Place.bare text
  let (place, supply, text) ← readWidth place supply text
  let (place, supply, text) ← readPrecision place supply text
  match skipLength text with
  | [] => .error .unfinishedPlace
  | conversion :: rest =>
      let (value, supply) ← supply.next
      let filled ← fill place conversion (size - rest.length - 1) value
      return (filled, supply, rest)

/-- Fill the places of the rest of a template, at most `fuel` of its parts. -/
def fillFrom (size : Nat) : Nat → Supply → List Char → Except Fault (List Char)
  | 0, _, text => .ok text
  | _ + 1, supply, [] =>
      if supply.entries.isNone && !supply.pending.isEmpty then .error .tooManyLogArguments
      else .ok []
  | fuel + 1, supply, '%' :: '%' :: rest => do
      return '%' :: (← fillFrom size fuel supply rest)
  | fuel + 1, supply, '%' :: rest => do
      let (filled, supply, rest) ← fillNext size supply rest
      return filled ++ (← fillFrom size fuel supply rest)
  | fuel + 1, supply, c :: rest => do
      return c :: (← fillFrom size fuel supply rest)

end Interpolation

/-- The message of a template and arguments.  Without arguments the template is the message. -/
def interpolate (template : String) (arguments : LogArguments) : Except Fault String :=
  if arguments.isEmpty then .ok template
  else do
    let text := template.toList
    let filled ← Interpolation.fillFrom text.length (text.length + 1) (.of arguments) text
    return String.ofList filled

end RequestLog
