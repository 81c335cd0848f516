import RequestLog.Exchange.Request
import RequestLog.Exchange.Response

/-!
# Exchanges

An exchange is a request and its response.  It begins when the request arrives, goes on when the
head of the response is sent, and is finished once its record has been made.
-/

namespace RequestLog

/-- How far an exchange has come. -/
inductive Stage where
  /-- The request has arrived. -/
  | arrived
  /-- The head of the response has been sent. -/
  | headersSent
  /-- The record has been made. -/
  | finished
  deriving DecidableEq, Repr

/-- A request, its response and how far they have come. -/
structure Exchange where
  /-- The request side. -/
  request : Request
  /-- The response side. -/
  response : Response
  /-- How far the exchange has come. -/
  stage : Stage

namespace Message

/-- The type of a message. -/
def type? (message : Message) : Option Value :=
  message.find? "type"

/-- The message begins a response. -/
def isHead (message : Message) : Bool :=
  message.type?.any (·.isText "http.response.start")

/-- The message is the last part of a body. -/
def isFinalBody (message : Message) : Bool :=
  message.type?.any (·.isText "http.response.body")
    && !((message.find? "more_body").getD (.bool false)).truthy

end Message

namespace Exchange

/-- The exchange of a request that has just arrived. -/
def begin (request : Request) : Exchange :=
  ⟨request, .fresh, .arrived⟩

/-- Stamp the head of the response.  If its headers cannot be read the exchange has not come
further. -/
def stampHead (exchange : Exchange) (stamp : Stamp) (message : Message) :
    Outcome Unit × Exchange :=
  match exchange.response.headSent stamp message with
  | (response, .ok ()) => (.ok (), { exchange with response := response, stage := .headersSent })
  | (response, .error fault) => (.error fault, { exchange with response := response })

end Exchange
end RequestLog
