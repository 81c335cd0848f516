import RequestLog.Decimal.Digits
import RequestLog.Text.Octets

/-!
# Loosely typed values

Scopes, messages, options and log arguments come from outside and may hold anything, so they are
values of one dynamic type.  Integers are unbounded.  A mapping keeps its entries in order.
-/

namespace RequestLog

/-- A loosely typed value. -/
inductive Value where
  /-- The absent value. -/
  | null
  /-- A truth value. -/
  | bool (value : Bool)
  /-- An integer. -/
  | int (value : Int)
  /-- A floating-point number. -/
  | float (value : Float)
  /-- A text. -/
  | str (text : String)
  /-- A sequence of octets. -/
  | bytes (octets : Octets)
  /-- A list. -/
  | list (items : List Value)
  /-- A list that never changes, hence may be a key of a mapping. -/
  | tuple (items : List Value)
  /-- A mapping, as entries in order. -/
  | dict (entries : List (Value × Value))
  deriving Inhabited, Repr

namespace Value

/-- The name of the type of a value. -/
def typeName : Value → String
  | null => "NoneType"
  | bool _ => "bool"
  | int _ => "int"
  | float _ => "float"
  | str _ => "str"
  | bytes _ => "bytes"
  | list _ => "list"
  | tuple _ => "tuple"
  | dict _ => "dict"

/-- A value counts as true unless it is absent, false, zero or empty. -/
def truthy : Value → Bool
  | null => false
  | bool b => b
  | int n => n ≠ 0
  | float x => x != 0
  | str s => !s.isEmpty
  | bytes b => !b.isEmpty
  | list xs => !xs.isEmpty
  | tuple xs => !xs.isEmpty
  | dict es => !es.isEmpty

/-- The value is the given text. -/
def isText (value : Value) (text : String) : Bool :=
  match value with
  | str s => s == text
  | _ => false

/-- The integer that a number equals, truth values counted as zero and one. -/
def asInteger? : Value → Option Int
  | bool b => some (if b then 1 else 0)
  | int n => some n
  | float x =>
      match Decimal.Binary64.ofFloat x with
      | .finite value => if value.isWhole then some value.truncated else none
      | _ => none
  | _ => none

mutual

/-- Two values are one key of a mapping: numbers by their value, all else by type and content. -/
def sameKey (left right : Value) : Bool :=
  match left.asInteger?, right.asInteger? with
  | some m, some n => m == n
  | some _, none => false
  | none, some _ => false
  | none, none =>
      match left, right with
      | null, null => true
      | float x, float y => x == y
      | str s, str t => s == t
      | bytes s, bytes t => s == t
      | tuple xs, tuple ys => sameKeys xs ys
      | _, _ => false

/-- Two sequences are one key item by item. -/
def sameKeys : List Value → List Value → Bool
  | [], [] => true
  | x :: xs, y :: ys => sameKey x y && sameKeys xs ys
  | _, _ => false

end

mutual

/-- The type of the first part of a value that keeps it from being a key. -/
def unhashable? : Value → Option String
  | list _ => some "list"
  | dict _ => some "dict"
  | tuple xs => unhashableIn? xs
  | _ => none

/-- The type of the first part of a sequence that cannot be a key. -/
def unhashableIn? : List Value → Option String
  | [] => none
  | x :: xs => unhashable? x <|> unhashableIn? xs

end

/-- Set the value of a key; a key that is present keeps its position. -/
def setEntry (entries : List (Value × Value)) (key value : Value) : List (Value × Value) :=
  match entries with
  | [] => [(key, value)]
  | (known, old) :: rest =>
      if sameKey known key then (known, value) :: rest
      else (known, old) :: setEntry rest key value

/-- The mapping with the given entries set one after the other. -/
def ofEntries (entries : List (Value × Value)) : Value :=
  dict (entries.foldl (fun built entry => setEntry built entry.1 entry.2) [])

/-- The mapping of named fields. -/
def ofFields (fields : List (String × Value)) : Value :=
  dict (fields.map fun field => (str field.1, field.2))

/-- The value of a text key among entries. -/
def entry? (entries : List (Value × Value)) (name : String) : Option Value :=
  (entries.find? fun entry => entry.1.isText name).map Prod.snd

/-- The text of one octet as an integer. -/
def ofOctet (octet : UInt8) : Value :=
  int octet.toNat

/-- What a value yields when it is run through item by item; numbers and the absent value yield
nothing at all. -/
def items? : Value → Option (List Value)
  | str s => some (s.toList.map fun c => str (String.singleton c))
  | bytes b => some (b.map ofOctet)
  | list xs => some xs
  | tuple xs => some xs
  | dict es => some (es.map Prod.fst)
  | _ => none

/-- A sequence of texts joined by commas. -/
def joinTexts (items : List String) : String :=
  String.intercalate ", " items

mutual

/-- The text that shows a value inside another one: texts are quoted. -/
def shown : Value → String
  | null => "None"
  | bool b => if b then "True" else "False"
  | int n => toString n
  | float x => floatText x
  | str s => Text.quoted s
  | bytes b => Octets.quoted b
  | list xs => "[" ++ joinTexts (shownItems xs) ++ "]"
  | tuple [x] => "(" ++ shown x ++ ",)"
  | tuple xs => "(" ++ joinTexts (shownItems xs) ++ ")"
  | dict es => "\x7b" ++ joinTexts (shownEntries es) ++ "\x7d"

/-- The items of a sequence, each shown. -/
def shownItems : List Value → List String
  | [] => []
  | x :: xs => shown x :: shownItems xs

/-- The entries of a mapping, each shown. -/
def shownEntries : List (Value × Value) → List String
  | [] => []
  | (key, value) :: rest => (shown key ++ ": " ++ shown value) :: shownEntries rest

end

/-- The text of a value: a text is itself, all else is shown. -/
def text : Value → String
  | str s => s
  | value => value.shown

end Value
end RequestLog
