import RequestLog.Json.Writer
import RequestLog.Logging.Entry

/-!
# Layouts of log lines

An entry is laid out as a JSON object or as text.  The object begins with time, level and message
and goes on with the fields of the access record that are not empty; the failure comes last.  The
text is the level and the fields as `name=value`, or the message if there are no fields; a failure
stands on a line of its own.
-/

namespace RequestLog
namespace Logging

/-- How entries are laid out. -/
inductive Layout where
  /-- A JSON object. -/
  | json
  /-- Text, with the level in colour or not. -/
  | text (colored : Bool)
  deriving DecidableEq, Repr

/-- Number of the terminal colour of a severity. -/
def colorOf : Severity → Nat
  | .error => 91
  | .warn => 93
  | .info => 92
  | .verbose => 96
  | .debug => 94
  | .silly => 95

/-- A text in a terminal colour. -/
def colored (color : Nat) (text : String) : String :=
  "\x1b[" ++ toString color ++ "m" ++ text ++ "\x1b[0m"

/-- The level at the beginning of a line of text. -/
def levelText (inColor : Bool) (level : Int) : String :=
  match Severity.ofLevel? level with
  | some severity => if inColor then colored (colorOf severity) severity.label else severity.label
  | none => levelLabel level

/-- A field of a line of text; a hyphen stands for an empty one. -/
def fieldText (field : Value × Value) : String :=
  field.1.text ++ "=" ++
    match field.2 with
    | .null => "-"
    | value => value.text

namespace Entry

/-- Time, level and message of an entry as entries of an object. -/
def opening (entry : Entry) (instant : Instant) (message : String) : List (Value × Value) :=
  [(.str "timestamp", .str instant.offsetText), (.str "level", .str (levelLabel entry.level)),
    (.str "message", .str message)]

/-- Set the fields that are not empty. -/
def setFields (entries fields : List (Value × Value)) : List (Value × Value) :=
  fields.foldl (fun built field =>
    match field.2 with
    | .null => built
    | value => Value.setEntry built field.1 value) entries

/-- The entries of the object that an entry is laid out as. -/
def object (entry : Entry) : Except Fault (List (Value × Value)) := do
  let instant ← instantOf entry.created
  let message ← entry.message
  let entries := setFields (entry.opening instant message) entry.fields
  match entry.failure with
  | none => return entries
  | some failure => return Value.setEntry entries (.str "traceback") (.str failure.logged)

/-- The line of JSON that an entry is laid out as. -/
def jsonLine (entry : Entry) : Except Fault String := do
  let entries ← entry.object
  let line ← Json.write (.dict entries)
  return String.ofList line

/-- The line of text that an entry is laid out as. -/
def textLine (entry : Entry) (inColor : Bool) : Except Fault String := do
  let body ←
    match entry.fields with
    | [] => entry.message
    | fields => .ok (String.intercalate " " (fields.map fieldText))
  let line := levelText inColor entry.level ++ ": " ++ body
  match entry.failure with
  | none => return line
  | some failure => return line ++ "\n" ++ failure.logged

end Entry

/-- Lay out an entry. -/
def Layout.format (layout : Layout) (entry : Entry) : Except Fault String :=
  match layout with
  | json => entry.jsonLine
  | text colored => entry.textLine colored

end Logging
end RequestLog
