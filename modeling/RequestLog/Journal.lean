import RequestLog.Compilation
import RequestLog.Exchange.Response
import RequestLog.Logging.Entry

/-!
# The journal

The journal keeps what happened, in order: entries of the loggers that are watched, records handed
to a sink that keeps them, and what passed between an app and its server.  Calls are told apart by
their numbers.
-/

namespace RequestLog

/-- Something that happened. -/
inductive Event where
  /-- An entry reached a watched logger. -/
  | logged (entry : Logging.Entry) (message : String)
  /-- A keeping sink got a record. -/
  | recorded (sink : String) (severity : Severity) (record : Record)
  /-- The server took a message of a call. -/
  | sent (call : Nat) (message : Message)
  /-- The server refused a message of a call. -/
  | refused (call : Nat) (message : Message)
  /-- The app of a call caught a failure. -/
  | caught (call : Nat) (failure : Failure)
  /-- The app of a call was handed a message. -/
  | received (call : Nat) (message : Message)

/-- What happened, in order. -/
abbrev Journal := List Event

end RequestLog
