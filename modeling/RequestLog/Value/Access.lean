import RequestLog.Fault

/-!
# Steps on loosely typed values

Joining and subtracting two values, taking the first item of a value, searching it and counting in
it, each with the faults of values that do not take the step.
-/

namespace RequestLog
namespace Value

/-- A number as a floating-point number; an integer may be too large for that. -/
def asFloat : Value → Except Fault Float
  | float x => .ok x
  | bool b => .ok (if b then 1 else 0)
  | int n =>
      match Decimal.floatOfInt? n with
      | some x => .ok x
      | none => .error .oversizedInteger
  | other => .error (.notNumber other.typeName)

/-- The value is a number or a truth value. -/
def isNumber : Value → Bool
  | float _ | int _ | bool _ => true
  | _ => false

/-- The sum of two numbers, of which one at least is a floating-point number. -/
def floatSum (left right : Value) : Except Fault Value := do
  let x ← left.asFloat
  let y ← right.asFloat
  return float (x + y)

/-- The difference of two numbers, of which one at least is a floating-point number. -/
def floatDifference (left right : Value) : Except Fault Value := do
  let x ← left.asFloat
  let y ← right.asFloat
  return float (x - y)

/-- The sum of two numbers, or the concatenation of two sequences of one type. -/
def plus (left right : Value) : Except Fault Value :=
  match left, right with
  | str s, str t => .ok (str (s ++ t))
  | bytes s, bytes t => .ok (bytes (s ++ t))
  | list xs, list ys => .ok (list (xs ++ ys))
  | tuple xs, tuple ys => .ok (tuple (xs ++ ys))
  | _, _ =>
      if left.isNumber && right.isNumber then
        match left, right with
        | float _, _ => floatSum left right
        | _, float _ => floatSum left right
        | _, _ => .ok (int (left.asInteger?.getD 0 + right.asInteger?.getD 0))
      else
        .error (.notJoinable left.typeName right.typeName)

/-- The difference of two numbers: exact for integers, in floating point as soon as one of them is a
floating-point number. -/
def minus (left right : Value) : Except Fault Value :=
  if left.isNumber && right.isNumber then
    match left, right with
    | float _, _ => floatDifference left right
    | _, float _ => floatDifference left right
    | _, _ => .ok (int (left.asInteger?.getD 0 - right.asInteger?.getD 0))
  else
    .error (.notSubtractable left.typeName right.typeName)

/-- The first item of a sequence, or the value that a mapping has for zero. -/
def firstItem (value : Value) : Except Fault Value :=
  match value with
  | str s =>
      match s.toList with
      | c :: _ => .ok (str (String.singleton c))
      | [] => .error (.noFirstItem "string")
  | bytes (octet :: _) => .ok (ofOctet octet)
  | list (item :: _) => .ok item
  | tuple (item :: _) => .ok item
  | dict entries =>
      match entries.find? fun entry => entry.1.sameKey (int 0) with
      | some entry => .ok entry.2
      | none => .error (.missingEntry (int 0))
  | bytes [] => .error (.noFirstItem "index")
  | list [] => .error (.noFirstItem "list")
  | tuple [] => .error (.noFirstItem "tuple")
  | other => .error (.notIndexable other.typeName)

/-- The value holds a text of one character: as a character, an item or a key. -/
def holds (value : Value) (member : Char) : Except Fault Bool :=
  match value with
  | str s => .ok (s.toList.contains member)
  | list items => .ok (items.any (·.isText (String.singleton member)))
  | tuple items => .ok (items.any (·.isText (String.singleton member)))
  | dict entries => .ok (entries.any fun entry => entry.1.isText (String.singleton member))
  | other => .error (.notSearchable other.typeName)

/-- How often a text of one character occurs in a value: as a character or as an item. -/
def occurrences (value : Value) (member : Char) : Except Fault Nat :=
  match value with
  | str s => .ok (s.toList.count member)
  | list items => .ok (items.countP (·.isText (String.singleton member)))
  | tuple items => .ok (items.countP (·.isText (String.singleton member)))
  | other => .error (.noAttribute other.typeName "count")

end Value
end RequestLog
