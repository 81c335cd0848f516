import RequestLog.Exchange
import RequestLog.Program
import RequestLog.World

/-!
# The middleware

The middleware stands between an app and its server.  It stamps the arrival of a request and the
head of the response, hands every message on as it is, and makes one record per exchange: right
after the last part of the body was taken, or else when the app is done.  Failures of the app are
logged and passed on; ordinary failures of making the record are logged and contained.
-/

namespace RequestLog

/-- An app: the program that answers a call. -/
abbrev App (W : Type) := Scope → Program W

/-- What the middleware makes records with. -/
structure Middleware (σ : Type) where
  /-- Extractors and formats. -/
  registry : Registry σ
  /-- The name of the format of its records. -/
  formatName : String
  /-- Proxies are trusted to report the address of the client. -/
  trustProxy : Bool
  /-- Failures of the app are logged. -/
  handleExceptions : Bool
  /-- What takes the records. -/
  sink : Sink σ
  /-- The logger that failures of the app go to. -/
  logger : String

namespace Middleware

variable {σ : Type}

/-- The logger of the middleware itself. -/
def ownLogger : String := "accesslog.middleware"

/-- Make the record of an exchange and hand it to the sink. -/
def record (middleware : Middleware σ) (exchange : Exchange) (world : World σ) :
    Outcome Unit × World σ :=
  match Severity.ofStatus exchange.response.status with
  | .error fault => (.error fault, world)
  | .ok severity =>
      match world.compile middleware.registry middleware.formatName exchange.request
          (some exchange.response) with
      | (.error failure, world) => (.error failure, world)
      | (.ok record, world) => middleware.sink severity record world

/-- Finish an exchange, unless it is finished already.  An ordinary failure is logged; any other one
is the outcome. -/
def complete (middleware : Middleware σ) (exchange : Exchange) (world : World σ) :
    (Outcome Unit × Exchange) × World σ :=
  if exchange.stage = .finished then ((.ok (), exchange), world)
  else
    let finished := { exchange with stage := .finished }
    match middleware.record exchange world with
    | (.ok (), world) => ((.ok (), finished), world)
    | (.error failure, world) =>
        if failure.isOrdinary then
          ((.ok (), finished),
            world.log ownLogger 40 (.str "failed to emit access log record") [] none (some failure))
        else ((.error failure, finished), world)

/-- Take a stamp for the head of the response. -/
def stampHead (exchange : Exchange) (message : Message) (world : World σ) :
    (Outcome Unit × Exchange) × World σ :=
  let (stamp, world) := world.stamp
  (exchange.stampHead stamp message, world)

/-- Log the failure of an app. -/
def logFailure (middleware : Middleware σ) (request : Request) (ending : Outcome Unit)
    (world : World σ) : World σ :=
  match ending with
  | .ok () => world
  | .error failure =>
      if failure.isOrdinary && middleware.handleExceptions then
        world.log middleware.logger 40 (.str "unhandled exception: %s %s")
          [request.method, request.url] none (some failure)
      else world

/-- Log the failure of an app and finish the exchange.  The outcome is that of the app, unless
finishing fails. -/
def conclude (middleware : Middleware σ) (exchange : Exchange) (ending : Outcome Unit)
    (world : World σ) : Outcome Unit × World σ :=
  match middleware.complete exchange (middleware.logFailure exchange.request ending world) with
  | ((.ok (), _), world) => (ending, world)
  | ((.error failure, _), world) => (.error failure, world)

/-- Send a message on, and finish the exchange once the last part of the body is taken. -/
def forward (middleware : Middleware σ) (exchange : Exchange) (message : Message)
    (next : Outcome Unit → Exchange → Program (World σ)) : Program (World σ) :=
  .send message fun result =>
    match result with
    | .error failure => next (.error failure) exchange
    | .ok () =>
        if message.isFinalBody then
          .perform (middleware.complete exchange) fun done => next done.1 done.2
        else next (.ok ()) exchange

/-- Stand between an app and its server for one exchange. -/
def guard (middleware : Middleware σ) : Program (World σ) → Exchange → Program (World σ)
  | .finish ending, exchange => .perform (middleware.conclude exchange ending) .finish
  | .receive next, exchange => .receive fun message => guard middleware (next message) exchange
  | .pause next, exchange => .pause fun result => guard middleware (next result) exchange
  | .effect change next, exchange =>
      .effect change fun world => guard middleware (next world) exchange
  | .send message next, exchange =>
      let go := fun result exchange => guard middleware (next result) exchange
      if message.type?.isNone then
        go (.error (Fault.missingEntry (.str "type"))) exchange
      else if message.isHead && exchange.stage = .arrived then
        .perform (stampHead exchange message) fun stamped =>
          match stamped with
          | (.error failure, exchange) => go (.error failure) exchange
          | (.ok (), exchange) => middleware.forward exchange message go
      else middleware.forward exchange message go

/-- Begin the exchange of a request and stand between the app and its server. -/
def attend (middleware : Middleware σ) (request : Request) (program : Program (World σ)) :
    Program (World σ) :=
  .perform World.stamp fun stamp =>
    middleware.guard program (.begin (request.arrived stamp request.address))

/-- The app with the middleware around it.  Calls of other kinds than requests pass through. -/
def wrap (middleware : Middleware σ) (app : App (World σ)) : App (World σ) := fun scope =>
  match scope.find? "type" with
  | none => .finish (.error (Fault.missingEntry (.str "type")))
  | some type =>
      if !type.isText "http" then app scope
      else
        match Request.ofScope scope middleware.trustProxy with
        | .error fault => .finish (.error fault)
        | .ok request => middleware.attend request (app scope)

end Middleware
end RequestLog
