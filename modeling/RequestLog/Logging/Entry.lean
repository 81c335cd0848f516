import RequestLog.Calendar
import RequestLog.Failure
import RequestLog.Interpolation
import RequestLog.Severity
import RequestLog.Text.Lowercase

/-!
# Log entries

A log entry says which logger it came through, how grave it is, when it was made and what its
message is; it may carry an access record and a failure.  Levels that belong to a severity are
called by the severity's label on a log line.
-/

namespace RequestLog
namespace Logging

/-- One entry of a log. -/
structure Entry where
  /-- Name of the logger that the entry came through. -/
  logger : String
  /-- Numeric level. -/
  level : Int
  /-- Template of the message. -/
  template : Value
  /-- Arguments of the message. -/
  arguments : LogArguments
  /-- Access record, if the entry carries anything as one. -/
  access : Option Value
  /-- Failure that the entry reports. -/
  failure : Option Failure
  /-- When the entry was made, in seconds since the beginning of 1970. -/
  created : Value

/-- The name of a numeric level. -/
def levelName (level : Int) : String :=
  match level with
  | 50 => "CRITICAL"
  | 40 => "ERROR"
  | 30 => "WARNING"
  | 20 => "INFO"
  | 15 => "VERBOSE"
  | 10 => "DEBUG"
  | 5 => "SILLY"
  | 0 => "NOTSET"
  | other => "Level " ++ toString other

/-- What a log line calls a level: the label of its severity, or else its name in lower case. -/
def levelLabel (level : Int) : String :=
  match Severity.ofLevel? level with
  | some severity => severity.label
  | none => Text.lowercase (levelName level)

namespace Entry

/-- The message of an entry. -/
def message (entry : Entry) : Except Fault String :=
  interpolate entry.template.text entry.arguments

/-- The fields of the access record; anything but a mapping has none. -/
def fields (entry : Entry) : List (Value × Value) :=
  match entry.access with
  | some (.dict entries) => entries
  | _ => []

end Entry

/-- The instant of a whole number of seconds, if calendars count its year. -/
def checkedInstant (micros : Int) : Except Fault Instant :=
  let instant : Instant := ⟨micros⟩
  let year := instant.date.year
  if year < -2147481748 ∨ 2147485547 < year then .error .yearUncounted
  else if year < 1 ∨ 9999 < year then .error (.yearOutOfRange year)
  else .ok instant

/-- The instant of a floating-point number of seconds, rounded to microseconds, a half to even. -/
def instantOfSeconds (x : Float) : Except Fault Instant :=
  match Decimal.Binary64.ofFloat x with
  | .nan => .error .undefinedNumber
  | .infinite _ => .error .instantOutOfRange
  | .finite value =>
      let whole := value.truncated
      if whole < -Decimal.wordLimit ∨ Decimal.wordLimit ≤ whole then .error .instantOutOfRange
      else
        match Decimal.Binary64.ofFloat ((x - Decimal.floatOfInt whole) * 1000000) with
        | .finite fraction =>
            let micros : Int := fraction.roundScaled 0
            checkedInstant (whole * 1000000 + if fraction.negative then -micros else micros)
        | _ => .error .undefinedNumber

/-- The instant of a time in seconds. -/
def instantOf (time : Value) : Except Fault Instant :=
  match time with
  | .float x => instantOfSeconds x
  | .int n =>
      if n < -Decimal.wordLimit ∨ Decimal.wordLimit ≤ n then .error .instantOutOfRange
      else checkedInstant (n * 1000000)
  | .bool b => checkedInstant (if b then 1000000 else 0)
  | other => .error (.notNumber other.typeName)

end Logging
end RequestLog
