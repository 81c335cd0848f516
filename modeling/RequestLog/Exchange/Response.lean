import RequestLog.Catalog
import RequestLog.Clock
import RequestLog.Headers

/-!
# The response side of an exchange

A response has a status and headers once its head has been sent.  Stamping the head takes the values
over one by one, so a head that cannot be read leaves what was taken over before.
-/

namespace RequestLog

/-- A message between the app and the server, by name. -/
abbrev Message := Catalog Value

/-- The response side of one exchange. -/
structure Response where
  /-- The final status. -/
  status : Value
  /-- Header list. -/
  headers : Headers
  /-- The head has been sent. -/
  headersSent : Bool
  /-- Stopwatch reading just before the head was sent, in seconds; absent before. -/
  startSeconds : Value
  /-- Instant just before the head was sent. -/
  startInstant : Option Instant

namespace Response

/-- A response whose head has not been sent. -/
def fresh : Response :=
  { status := .null
    headers := Headers.empty
    headersSent := false
    startSeconds := .null
    startInstant := none }

/-- Take the entries of a header list apart. -/
def takeHeaders : List Value → Except Fault (List Value)
  | [] => .ok []
  | entry :: rest => do
      let (name, value) ← entry.pair
      let others ← takeHeaders rest
      return .tuple [name, value] :: others

/-- The header list of a message that begins a response. -/
def headersOf (message : Message) : Except Fault Headers :=
  let raw := (message.find? "headers").getD (.list [])
  match raw.items? with
  | none => .error (.notIterable raw.typeName)
  | some entries => do
      let taken ← takeHeaders entries
      return .listed taken

/-- Stamp the head of a response.  The stamps and the status are taken over even if the header list
cannot be read. -/
def headSent (response : Response) (stamp : Stamp) (message : Message) :
    Response × Except Fault Unit :=
  let stamped := { response with
    startSeconds := .float stamp.seconds
    startInstant := some stamp.instant
    status := (message.find? "status").getD .null }
  match headersOf message with
  | .ok headers => ({ stamped with headers := headers, headersSent := true }, .ok ())
  | .error fault => (stamped, .error fault)

end Response
end RequestLog
