import RequestLog.Proofs.Middleware.Completion

/-!
# What the heads of a response leave behind

An app may send several heads.  The first one whose headers can be read stamps the response, and
none after it does.  Until then every head leaves its status behind, although the response counts as
not sent.
-/

namespace RequestLog

namespace Message

/-- The status that a message gives. -/
def status (message : Message) : Value :=
  (message.find? "status").getD .null

/-- The headers of a message can be read. -/
def isReadable (message : Message) : Bool :=
  (Response.headersOf message).isOk

theorem isReadable_of_ok {message : Message} {headers : Headers}
    (read : Response.headersOf message = .ok headers) : message.isReadable = true := by
  rw [isReadable, read]
  rfl

theorem isReadable_of_error {message : Message} {fault : Fault}
    (refused : Response.headersOf message = .error fault) : message.isReadable = false := by
  rw [isReadable, refused]
  rfl

/-- The status that heads leave behind: that of the first one that can be read, or else of the last
one. -/
def heldStatus (heads : List Message) : Value :=
  match heads.find? isReadable with
  | some head => head.status
  | none => (heads.getLast?.map status).getD .null

theorem heldStatus_append_of_readable {heads : List Message}
    (readable : heads.any isReadable = true) (message : Message) :
    heldStatus (heads ++ [message]) = heldStatus heads := by
  obtain ⟨head, found⟩ :=
    Option.isSome_iff_exists.mp (List.find?_isSome.mpr (List.any_eq_true.mp readable))
  simp only [heldStatus, List.find?_append, found, Option.some_or]

theorem heldStatus_append_of_unreadable {heads : List Message}
    (unreadable : heads.any isReadable = false) (message : Message) :
    heldStatus (heads ++ [message]) = message.status := by
  have none_found : heads.find? isReadable = none :=
    List.find?_eq_none.mpr (by simpa using unreadable)
  cases readable : message.isReadable with
  | true =>
      simp only [heldStatus, List.find?_append, none_found, Option.none_or,
        List.find?_cons_of_pos readable]
  | false =>
      have none_after : [message].find? isReadable = none := by simp [readable]
      simp [heldStatus, List.find?_append, none_found, none_after]

end Message

namespace Exchange

/-- A message leaves the exchange waiting for a head unless it is a head that can be read. -/
theorem afterSend_stage_eq_arrived_iff (exchange : Exchange) (message : Message) (stamp : Stamp) :
    (exchange.afterSend message stamp).stage = .arrived ↔
      exchange.stage = .arrived ∧ (message.isHead = true → message.isReadable = false) := by
  rw [afterSend]
  by_cases waits : exchange.stage = .arrived
  · cases head : message.isHead with
    | false => simp [waits]
    | true =>
        cases read : Response.headersOf message with
        | ok headers =>
            have readable := Message.isReadable_of_ok read
            simp [waits, stampHead, Response.headSent, read, readable]
        | error fault =>
            have unreadable := Message.isReadable_of_error read
            simp [waits, stampHead, Response.headSent, read, unreadable]
  · simp [waits]

/-- An unfinished exchange for which the app has sent the heads. -/
structure StampedBy (exchange : Exchange) (heads : List Message) : Prop where
  /-- The response has the status that the heads leave behind. -/
  status : exchange.response.status = Message.heldStatus heads
  /-- The response counts as sent once a head could be read. -/
  headersSent : exchange.response.headersSent = heads.any Message.isReadable
  /-- The exchange has come as far. -/
  stage : exchange.stage = if heads.any Message.isReadable then .headersSent else .arrived

theorem stampedBy_begin (request : Request) : (Exchange.begin request).StampedBy [] :=
  ⟨rfl, rfl, rfl⟩

theorem StampedBy.stampHead {exchange : Exchange} {heads : List Message}
    (stamped : exchange.StampedBy heads) (unreadable : heads.any Message.isReadable = false)
    (message : Message) (stamp : Stamp) :
    (exchange.stampHead stamp message).2.StampedBy (heads ++ [message]) := by
  have held := Message.heldStatus_append_of_unreadable unreadable message
  have waiting : exchange.stage = .arrived := by simp [stamped.stage, unreadable]
  have unsent : exchange.response.headersSent = false := by rw [stamped.headersSent, unreadable]
  cases read : Response.headersOf message with
  | ok headers =>
      have readable := Message.isReadable_of_ok read
      constructor <;> simp [Exchange.stampHead, Response.headSent, read, readable, held]
      rfl
  | error fault =>
      have refused := Message.isReadable_of_error read
      constructor <;>
        simp [Exchange.stampHead, Response.headSent, read, refused, held, unreadable, waiting,
          unsent]
      rfl

/-- A message of the app leaves the exchange stamped by the heads up to it. -/
theorem StampedBy.afterSend {exchange : Exchange} {sent : List Message}
    (stamped : exchange.StampedBy (sent.filter Message.isHead)) (message : Message)
    (stamp : Stamp) :
    (exchange.afterSend message stamp).StampedBy ((sent ++ [message]).filter Message.isHead) := by
  rw [List.filter_append]
  cases head : message.isHead with
  | false => simpa [Exchange.afterSend, head] using stamped
  | true =>
      rw [List.filter_cons_of_pos head, List.filter_nil]
      cases readable : (sent.filter Message.isHead).any Message.isReadable with
      | true =>
          have gone : exchange.stage = .headersSent := by simp [stamped.stage, readable]
          have kept := Message.heldStatus_append_of_readable readable message
          simp only [Exchange.afterSend, head, gone]
          constructor
          · simpa [kept] using stamped.status
          · simpa [readable] using stamped.headersSent
          · simpa [readable] using stamped.stage
      | false =>
          have waiting : exchange.stage = .arrived := by simp [stamped.stage, readable]
          simp only [Exchange.afterSend, head, waiting]
          exact stamped.stampHead readable message stamp

end Exchange
end RequestLog
