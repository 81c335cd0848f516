import RequestLog.Fault

/-!
# Severities

A record has one of six severities, each with a numeric level.  A finished exchange is judged by its
final status: a server error is an error, a client error a warning, every other known status is
information, and a status that is missing or unknown is an error.
-/

namespace RequestLog

/-- How grave a record is. -/
inductive Severity where
  /-- A server error, or no usable status. -/
  | error
  /-- A client error. -/
  | warn
  /-- An ordinary exchange. -/
  | info
  /-- Details of an exchange. -/
  | verbose
  /-- Details for development. -/
  | debug
  /-- Everything. -/
  | silly
  deriving DecidableEq, Repr, Inhabited

namespace Severity

/-- All severities, the gravest first. -/
def values : List Severity :=
  [error, warn, info, verbose, debug, silly]

/-- The label of a severity. -/
def label : Severity → String
  | error => "error"
  | warn => "warn"
  | info => "info"
  | verbose => "verbose"
  | debug => "debug"
  | silly => "silly"

/-- The numeric level of a severity. -/
def level : Severity → Int
  | error => 40
  | warn => 30
  | info => 20
  | verbose => 15
  | debug => 10
  | silly => 5

/-- The severity with a label. -/
def ofLabel? (text : String) : Option Severity :=
  values.find? fun severity => severity.label == text

/-- The severity with a numeric level. -/
def ofLevel? (number : Int) : Option Severity :=
  values.find? fun severity => severity.level == number

/-- The severity of an exchange without a usable status. -/
def fallback : Severity := error

/-- The statuses that the protocol knows, as inclusive ranges. -/
def statusRanges : List (Nat × Nat) :=
  [(100, 103), (200, 208), (226, 226), (300, 305), (307, 308), (400, 418), (421, 426), (428, 429),
    (431, 431), (451, 451), (500, 508), (510, 511)]

/-- The statuses that the protocol knows, in ascending order. -/
def statuses : List Nat :=
  statusRanges.flatMap fun range => (List.range (range.2 + 1 - range.1)).map (range.1 + ·)

/-- The severity of a known status. -/
def ofClass (status : Int) : Severity :=
  if 500 ≤ status then error else if 400 ≤ status then warn else info

/-- The severity of a status number. -/
def ofNumber (status : Int) : Severity :=
  if statuses.any fun known => (known : Int) == status then ofClass status else fallback

/-- The severity of a final status.  A number counts by its value, whatever its type; a list or a
mapping cannot be looked up. -/
def ofStatus (status : Value) : Except Fault Severity :=
  match status.unhashable? with
  | some type => .error (.unhashable type)
  | none =>
      match status.asInteger? with
      | some number => .ok (ofNumber number)
      | none => .ok fallback

end Severity
end RequestLog
