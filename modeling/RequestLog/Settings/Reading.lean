import RequestLog.Settings.Numeral
import RequestLog.Severity

/-!
# Reading settings values

Settings come as values of many types and as texts of the environment, so each kind of setting reads
all that stands for it without doubt: an integer also as a text or a whole floating-point number, a
truth value also as a word.  Octets count as the text they encode.
-/

namespace RequestLog
namespace Settings

/-- Read a value as a text. -/
def readText (value : Value) : Except Problem String :=
  match value with
  | .str text => .ok text
  | .bytes octets =>
      match octets.text? with
      | some text => .ok text
      | none => .error .notUnicode
  | _ => .error .notText

/-- Read a value as a severity: its label and nothing else. -/
def readSeverity (value : Value) : Except Problem Severity :=
  match value with
  | .str text =>
      match Severity.ofLabel? text with
      | some severity => .ok severity
      | none => .error .notSeverity
  | _ => .error .notSeverity

/-- The number lies within the signed integers of sixty-four bits. -/
def fitsWord (n : Int) : Bool :=
  -Decimal.wordLimit ≤ n && n < Decimal.wordLimit

/-- Read a floating-point number as an integer; both ends of the sixty-four bits are already
beyond. -/
def readWholeFloat (x : Float) : Except Problem Int :=
  match Decimal.Binary64.ofFloat x with
  | .finite value =>
      if !value.isWhole then .error .fractionalInteger
      else if -Decimal.wordLimit < value.truncated && value.truncated < Decimal.wordLimit then
        .ok value.truncated
      else .error .oversizedInteger
  | _ => .error .notFinite

/-- Read a value as an integer. -/
def readInteger (value : Value) : Except Problem Int :=
  match value with
  | .bool b => .ok (if b then 1 else 0)
  | .int n => .ok n
  | .float x => readWholeFloat x
  | .str text => Numeral.read text.toList
  | .bytes octets =>
      match octets.text? with
      | some text => Numeral.read text.toList
      | none => .error .unreadableInteger
  | _ => .error .notInteger

/-- Read a value as a positive integer. -/
def readPositive (value : Value) : Except Problem Int :=
  match readInteger value with
  | .error problem => .error problem
  | .ok n => if n ≤ 0 then .error .notPositive else .ok n

/-- The words for true. -/
def yesWords : List String :=
  ["1", "on", "t", "true", "y", "yes"]

/-- The words for false. -/
def noWords : List String :=
  ["0", "off", "f", "false", "n", "no"]

/-- Read a word as a truth value, in either case of the ASCII letters. -/
def readWord (text : String) : Except Problem Bool :=
  let word := String.ofList (text.toList.map Char.toLower)
  if yesWords.contains word then .ok true
  else if noWords.contains word then .ok false
  else .error .unreadableBoolean

/-- Read an integer as a truth value. -/
def readBit (n : Int) : Except Problem Bool :=
  if n = 0 then .ok false
  else if n = 1 then .ok true
  else if fitsWord n then .error .unreadableBoolean
  else .error .notBoolean

/-- Read a value as a truth value. -/
def readBool (value : Value) : Except Problem Bool :=
  match value with
  | .bool b => .ok b
  | .int n => readBit n
  | .float x =>
      match readWholeFloat x with
      | .ok n => readBit n
      | .error _ => .error .notBoolean
  | .str text => readWord text
  | .bytes octets =>
      match octets.text? with
      | some text => readWord text
      | none => .error .unreadableBoolean
  | _ => .error .notBoolean

/-- Which fields a record has: those of a registered format, or those of listed tokens. -/
inductive FormatChoice where
  /-- The format registered under a name. -/
  | named (name : String)
  /-- A format made of the texts of tokens. -/
  | listed (tokens : List String)
  deriving DecidableEq, Repr

/-- The choice as a value. -/
def FormatChoice.value : FormatChoice → Value
  | named name => .str name
  | listed tokens => .list (tokens.map .str)

/-- The items of a list that are no texts, with their positions. -/
def itemComplaints (index : Nat) : List Value → List (Nat × Problem)
  | [] => []
  | item :: rest =>
      match readText item with
      | .ok _ => itemComplaints (index + 1) rest
      | .error problem => (index, problem) :: itemComplaints (index + 1) rest

/-- The texts of a list, items that are no texts left out. -/
def itemTexts (items : List Value) : List String :=
  items.filterMap fun item => (readText item).toOption

/-- Complaints about a value that is neither a text nor a list of texts. -/
def formatComplaints (problem : Problem) (inList : List Complaint) : List Complaint :=
  ⟨[.name "str"], problem⟩ :: inList

/-- Read the items of a list as the texts of tokens. -/
def readTokens (items : List Value) : Except (List Complaint) FormatChoice :=
  match itemComplaints 0 items with
  | [] =>
      if items.isEmpty then .error [⟨[], .emptyFormat⟩] else .ok (.listed (itemTexts items))
  | found =>
      .error (formatComplaints .notText
        (found.map fun entry => ⟨[.name "list[str]", .position entry.1], entry.2⟩))

/-- Read a value as the choice of a format.  The complaints name both ways to choose one. -/
def readFormat (value : Value) : Except (List Complaint) FormatChoice :=
  match value with
  | .list items => readTokens items
  | .tuple items => readTokens items
  | other =>
      match readText other with
      | .ok text => if text.isEmpty then .error [⟨[], .emptyFormat⟩] else .ok (.named text)
      | .error problem => .error (formatComplaints problem [⟨[.name "list[str]"], .notList⟩])

end Settings
end RequestLog
