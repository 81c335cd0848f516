import RequestLog.Failure
import RequestLog.Text.Lowercase

/-!
# Header lists

Headers are a list of name and value pairs of octets, as they came in; a list from outside may hold
anything else, which fails when a lookup reaches it.  A lookup lowers the name that is looked for
and compares it with the names in the list as they are.  A mapping may stand in for the list: it
knows one value for a name, exactly as the name is written, and never several.
-/

namespace RequestLog

/-- The headers of one side of an exchange. -/
inductive Headers where
  /-- A header list as it came in. -/
  | listed (entries : List Value)
  /-- A value that stands in for the list. -/
  | standIn (value : Value)
  deriving Inhabited

/-- Take a value apart into two. -/
def Value.pair (value : Value) : Except Fault (Value × Value) :=
  match value.items? with
  | none => .error (.notUnpackable value.typeName)
  | some [first, second] => .ok (first, second)
  | some parts => .error (if parts.length < 2 then .tooFewParts parts.length else .tooManyParts)

namespace Headers

/-- No headers. -/
def empty : Headers := .listed []

/-- The headers of well-formed pairs. -/
def ofPairs (pairs : List (Octets × Octets)) : Headers :=
  .listed (pairs.map fun pair => .tuple [.bytes pair.1, .bytes pair.2])

/-- The Latin text of a header value. -/
def decoded : Value → Except Fault String
  | .bytes octets => .ok octets.latin
  | other => .error (.noAttribute other.typeName "decode")

/-- The octets that a name is looked up by. -/
def lookupName (name : String) : Except Fault Octets :=
  let lowered := Text.lowercase name
  match Octets.ofLatin lowered with
  | .ok octets => .ok octets
  | .error (place, length) =>
      .error (.beyondLatin (lowered.toList.getD place ' ') place length)

/-- The raw name is the one looked for. -/
def hasName (raw : Value) (name : Octets) : Bool :=
  match raw with
  | .bytes octets => octets == name
  | _ => false

/-- The text of the first entry with a name. -/
def firstOf (name : Octets) : List Value → Except Fault (Option String)
  | [] => .ok none
  | entry :: rest => do
      let (raw, value) ← entry.pair
      if hasName raw name then
        let text ← decoded value
        return some text
      else firstOf name rest

/-- The texts of all entries with a name, in order. -/
def allOf (name : Octets) : List Value → Except Fault (List String)
  | [] => .ok []
  | entry :: rest => do
      let (raw, value) ← entry.pair
      if hasName raw name then
        let text ← decoded value
        let others ← allOf name rest
        return text :: others
      else allOf name rest

/-- The value of the first header with a name, absent if there is none. -/
def get (headers : Headers) (name : String) : Except Fault Value :=
  match headers with
  | listed entries => do
      let octets ← lookupName name
      match ← firstOf octets entries with
      | some text => return .str text
      | none => return .null
  | standIn (.dict entries) => .ok ((Value.entry? entries name).getD .null)
  | standIn value => .error (.noAttribute value.typeName "get")

/-- The values of all headers with a name, in order. -/
def all (headers : Headers) (name : String) : Except Fault (List String) :=
  match headers with
  | listed entries => do
      let octets ← lookupName name
      allOf octets entries
  | standIn value => .error (.noAttribute value.typeName "getlist")

/-- The values of all headers with a name, joined by commas, or nothing if there are none. -/
def joined (headers : Headers) (name : String) : Except Fault (Option String) := do
  let texts ← headers.all name
  return if texts.isEmpty then none else some (Value.joinTexts texts)

end Headers
end RequestLog
