import RequestLog.Script

/-!
# The course of a call

The course of a call lists what shows of it, in order: what the server was handed, what the app was
told, how the app ended, when the exchange was finished and what the sink was handed.  It is the run
of the call with notes taken on the way.  `run_wrap` and `run_eq_course` say that the run is what
remains of the course when the notes are left out.

The notes follow what the middleware does: `complete_of_unfinished` and `complete_of_finished` say
when a record is made, `record_eq_draft` when the sink is called, `conclude_eq` how a call ends.
That the parties of the same run tell the same is shown with their accounts, by `course_unfolds`.
-/

namespace RequestLog

/-- Something that shows of a call. -/
inductive Incident (σ : Type) where
  /-- The server was handed a message and answered it. -/
  | forwarded (message : Message) (answer : Outcome Unit)
  /-- The app was told the result of sending a message. -/
  | told (message : Message) (result : Outcome Unit)
  /-- The app returned or failed. -/
  | ended (ending : Outcome Unit)
  /-- The failure of the app was logged. -/
  | reported (failure : Failure)
  /-- The exchange, as it stood in the world as it was, went over to finished. -/
  | finished (exchange : Exchange) (world : World σ)
  /-- The sink was handed a record. -/
  | emitted (severity : Severity) (record : Record)

namespace Incident

variable {σ : Type}

/-- The exchange went over to finished, or the sink was handed a record. -/
def isCompletion : Incident σ → Bool
  | finished _ _ | emitted _ _ => true
  | _ => false

/-- The server took the last part of a body. -/
def isTakenFinalBody : Incident σ → Bool
  | forwarded message (.ok ()) => message.isFinalBody
  | _ => false

/-- A message handed to the server, with the answer. -/
def handed? : Incident σ → Option (Message × Outcome Unit)
  | forwarded message answer => some (message, answer)
  | _ => none

/-- A message of the app, with the result that the app was told. -/
def heard? : Incident σ → Option (Message × Outcome Unit)
  | told message result => some (message, result)
  | _ => none

end Incident

/-- A call from its beginning to its end. -/
structure Course (S σ : Type) where
  /-- What shows of the call, in order. -/
  incidents : List (Incident σ)
  /-- How the call ended. -/
  outcome : Outcome Unit
  /-- What the server knows at the end. -/
  known : S
  /-- The world at the end. -/
  world : World σ

namespace Course

variable {S σ : Type}

/-- The course with incidents before it. -/
def since (course : Course S σ) (earlier : List (Incident σ)) : Course S σ :=
  { course with incidents := earlier ++ course.incidents }

@[simp]
theorem incidents_since (course : Course S σ) (earlier : List (Incident σ)) :
    (course.since earlier).incidents = earlier ++ course.incidents := rfl

/-- The messages that the server was handed, with its answers, in order. -/
def handed (course : Course S σ) : List (Message × Outcome Unit) :=
  course.incidents.filterMap Incident.handed?

/-- The messages that the app sent, with the results that it was told, in order. -/
def heard (course : Course S σ) : List (Message × Outcome Unit) :=
  course.incidents.filterMap Incident.heard?

end Course

namespace Program

variable {S σ : Type}

/-- The course of a program that nothing stands in front of. -/
def course (server : Server S (World σ)) : Program (World σ) → S → World σ → Course S σ
  | .finish ending, known, world => ⟨[.ended ending], ending, known, world⟩
  | .send message next, known, world =>
      let answered := server.answer known message
      (course server (next answered.1) answered.2 (server.noteSent message answered.1 world)).since
        [.forwarded message answered.1, .told message answered.1]
  | .receive next, known, world =>
      course server (next server.offer) known (server.noteReceived server.offer world)
  | .pause next, known, world => course server (next (.ok ())) known world
  | .effect change next, known, world => course server (next world) known (change world)

theorem run_eq_course (server : Server S (World σ)) (program : Program (World σ)) (known : S)
    (world : World σ) :
    program.run server known world =
      ((program.course server known world).outcome, (program.course server known world).known,
        (program.course server known world).world) := by
  induction program generalizing known world with
  | finish ending => rfl
  | send message next ih => exact ih _ _ _
  | receive next ih => exact ih _ _ _
  | pause next ih => exact ih _ _ _
  | effect change next ih => exact ih _ _ _

theorem run_perform {α : Type} (server : Server S (World σ)) (step : World σ → α × World σ)
    (next : α → Program (World σ)) (known : S) (world : World σ) :
    (perform step next).run server known world =
      (next (step world).1).run server known (step world).2 := rfl

end Program

namespace Middleware

variable {S σ : Type}

/-- What the sink is to be handed for an exchange, and the world once that is known. -/
def draft (middleware : Middleware σ) (exchange : Exchange) (world : World σ) :
    Outcome (Severity × Record) × World σ :=
  match Severity.ofStatus exchange.response.status with
  | .error fault => (.error fault, world)
  | .ok severity =>
      match world.compile middleware.registry middleware.formatName exchange.request
          (some exchange.response) with
      | (.error failure, world) => (.error failure, world)
      | (.ok record, world) => (.ok (severity, record), world)

/-- The sink is called if there is something to hand to it, once, and not otherwise. -/
theorem record_eq_draft (middleware : Middleware σ) (exchange : Exchange) (world : World σ) :
    middleware.record exchange world =
      match middleware.draft exchange world with
      | (.error failure, world) => (.error failure, world)
      | (.ok (severity, record), world) => middleware.sink severity record world := by
  unfold record draft
  cases Severity.ofStatus exchange.response.status with
  | error fault => rfl
  | ok severity =>
      dsimp only
      generalize world.compile middleware.registry middleware.formatName exchange.request
        (some exchange.response) = compiled
      obtain ⟨outcome, later⟩ := compiled
      cases outcome <;> rfl

/-- What is left of the result of making a record: an ordinary failure is contained. -/
def contained (result : Outcome Unit) : Outcome Unit :=
  match result with
  | .ok () => .ok ()
  | .error failure => if failure.isOrdinary then .ok () else .error failure

/-- What the result of making a record leaves behind: an ordinary failure is logged. -/
def logLoss (result : Outcome Unit) (world : World σ) : World σ :=
  match result with
  | .ok () => world
  | .error failure =>
      if failure.isOrdinary then
        world.log ownLogger 40 (.str "failed to emit access log record") [] none (some failure)
      else world

/-- A finished exchange is left alone: no record is made of it. -/
theorem complete_of_finished (middleware : Middleware σ) {exchange : Exchange}
    (finished : exchange.stage = .finished) (world : World σ) :
    middleware.complete exchange world = ((.ok (), exchange), world) := by
  rw [complete, if_pos finished]

/-- Any other exchange is finished by making its record, once. -/
theorem complete_of_unfinished (middleware : Middleware σ) {exchange : Exchange}
    (unfinished : exchange.stage ≠ .finished) (world : World σ) :
    middleware.complete exchange world =
      let made := middleware.record exchange world
      ((contained made.1, { exchange with stage := .finished }), logLoss made.1 made.2) := by
  rw [complete, if_neg unfinished]
  rcases middleware.record exchange world with ⟨result, later⟩
  cases result with
  | ok taken => rfl
  | error failure => cases ordinary : failure.isOrdinary <;> simp [contained, logLoss, ordinary]

/-- The call ends as finishing the exchange leaves it, and as the app did unless finishing fails. -/
theorem conclude_eq (middleware : Middleware σ) (exchange : Exchange) (ending : Outcome Unit)
    (world : World σ) :
    middleware.conclude exchange ending world =
      let completed :=
        middleware.complete exchange (middleware.logFailure exchange.request ending world)
      (completed.1.1.bind fun _ => ending, completed.2) := by
  rw [conclude]
  rcases middleware.complete exchange (middleware.logFailure exchange.request ending world) with
    ⟨⟨result, finished⟩, later⟩
  cases result <;> rfl

/-- What shows of handing the record of an exchange to the sink. -/
def emission (middleware : Middleware σ) (exchange : Exchange) (world : World σ) :
    List (Incident σ) :=
  match (middleware.draft exchange world).1 with
  | .error _ => []
  | .ok (severity, record) => [.emitted severity record]

/-- What shows of making a record is what any sink in its place would be called with: nothing shows
and no sink is called, or one record shows and the sink is called with it, once. -/
theorem record_of_every_sink (middleware : Middleware σ) (exchange : Exchange) (world : World σ) :
    (middleware.emission exchange world = [] ∧ ∃ failure later, ∀ sink,
        ({ middleware with sink := sink }).record exchange world = (.error failure, later)) ∨
      ∃ severity record later,
        middleware.emission exchange world = [.emitted severity record] ∧ ∀ sink,
          ({ middleware with sink := sink }).record exchange world =
            sink severity record later := by
  have same_draft : ∀ sink, ({ middleware with sink := sink }).draft exchange world =
      middleware.draft exchange world := fun _ => rfl
  simp only [record_eq_draft, same_draft, emission]
  obtain ⟨drafted, later⟩ := middleware.draft exchange world
  cases drafted with
  | error failure => exact Or.inl ⟨rfl, failure, later, fun _ => rfl⟩
  | ok made => exact Or.inr ⟨made.1, made.2, later, rfl, fun _ => rfl⟩

/-- If a record shows, any sink in its place would be called with it. -/
theorem record_of_emission_eq {middleware : Middleware σ} {exchange : Exchange} {world : World σ}
    {severity : Severity} {record : Record}
    (emitted : middleware.emission exchange world = [.emitted severity record]) :
    ∃ later, ∀ sink,
      ({ middleware with sink := sink }).record exchange world = sink severity record later := by
  rcases middleware.record_of_every_sink exchange world with
    ⟨nothing, -⟩ | ⟨shown_severity, shown_record, later, shown, handed⟩
  · rw [emitted] at nothing
    cases nothing
  · rw [emitted] at shown
    cases shown
    exact ⟨later, handed⟩

/-- What shows of finishing an exchange. -/
def completion (middleware : Middleware σ) (exchange : Exchange) (world : World σ) :
    List (Incident σ) :=
  if exchange.stage = .finished then []
  else .finished exchange world :: middleware.emission exchange world

/-- What shows of logging the failure of an app. -/
def report (middleware : Middleware σ) (ending : Outcome Unit) : List (Incident σ) :=
  match ending with
  | .ok () => []
  | .error failure =>
      if failure.isOrdinary && middleware.handleExceptions then [.reported failure] else []

/-- What comes of one message of the app. -/
structure Passage (S σ : Type) where
  /-- What shows of it, in order. -/
  incidents : List (Incident σ)
  /-- What the app is told. -/
  result : Outcome Unit
  /-- The exchange afterwards. -/
  exchange : Exchange
  /-- What the server knows afterwards. -/
  known : S
  /-- The world afterwards. -/
  world : World σ

/-- Hand a message on, and finish the exchange once the last part of the body is taken. -/
def handOn (middleware : Middleware σ) (server : Server S (World σ)) (exchange : Exchange)
    (message : Message) (known : S) (world : World σ) : Passage S σ :=
  let answered := server.answer known message
  let noted := server.noteSent message answered.1 world
  match answered.1 with
  | .error failure =>
      ⟨[.forwarded message (.error failure)], .error failure, exchange, answered.2, noted⟩
  | .ok () =>
      if message.isFinalBody then
        let done := middleware.complete exchange noted
        ⟨.forwarded message (.ok ()) :: middleware.completion exchange noted, done.1.1, done.1.2,
          answered.2, done.2⟩
      else ⟨[.forwarded message (.ok ())], .ok (), exchange, answered.2, noted⟩

/-- What comes of one message of the app: a head is stamped first, unless one has been already. -/
def passage (middleware : Middleware σ) (server : Server S (World σ)) (exchange : Exchange)
    (message : Message) (known : S) (world : World σ) : Passage S σ :=
  if message.type?.isNone then
    ⟨[], .error (Fault.missingEntry (.str "type")), exchange, known, world⟩
  else if message.isHead && exchange.stage = .arrived then
    let stamped := stampHead exchange message world
    match stamped.1.1 with
    | .error failure => ⟨[], .error failure, stamped.1.2, known, stamped.2⟩
    | .ok () => middleware.handOn server stamped.1.2 message known stamped.2
  else middleware.handOn server exchange message known world

/-- The course of a program behind a middleware, from an exchange on. -/
def guardCourse (middleware : Middleware σ) (server : Server S (World σ)) :
    Program (World σ) → Exchange → S → World σ → Course S σ
  | .finish ending, exchange, known, world =>
      let concluded := middleware.conclude exchange ending world
      ⟨.ended ending :: (middleware.report ending ++
          middleware.completion exchange (middleware.logFailure exchange.request ending world)),
        concluded.1, known, concluded.2⟩
  | .send message next, exchange, known, world =>
      let passed := middleware.passage server exchange message known world
      (guardCourse middleware server (next passed.result) passed.exchange passed.known
        passed.world).since (passed.incidents ++ [.told message passed.result])
  | .receive next, exchange, known, world =>
      guardCourse middleware server (next server.offer) exchange known
        (server.noteReceived server.offer world)
  | .pause next, exchange, known, world =>
      guardCourse middleware server (next (.ok ())) exchange known world
  | .effect change next, exchange, known, world =>
      guardCourse middleware server (next world) exchange known (change world)

/-- The course of a request: its arrival is stamped, then the middleware stands in front. -/
def attendCourse (middleware : Middleware σ) (server : Server S (World σ)) (request : Request)
    (program : Program (World σ)) (known : S) (world : World σ) : Course S σ :=
  middleware.guardCourse server program
    (.begin (request.arrived world.stamp.1 request.address)) known world.stamp.2

/-- The course of a call of the wrapped app. -/
def course (middleware : Middleware σ) (server : Server S (World σ)) (app : App (World σ))
    (scope : Scope) (known : S) (world : World σ) : Course S σ :=
  match scope.find? "type" with
  | none => ⟨[], .error (Fault.missingEntry (.str "type")), known, world⟩
  | some type =>
      if !type.isText "http" then (app scope).course server known world
      else
        match Request.ofScope scope middleware.trustProxy with
        | .error fault => ⟨[], .error fault, known, world⟩
        | .ok request => middleware.attendCourse server request (app scope) known world

theorem run_forward (middleware : Middleware σ) (server : Server S (World σ)) (exchange : Exchange)
    (message : Message) (next : Outcome Unit → Exchange → Program (World σ)) (known : S)
    (world : World σ) :
    (middleware.forward exchange message next).run server known world =
      let passed := middleware.handOn server exchange message known world
      (next passed.result passed.exchange).run server passed.known passed.world := by
  cases answered : server.answer known message with
  | mk answer later =>
      cases answer with
      | error failure => simp only [forward, Program.run, handOn, answered]
      | ok taken =>
          simp only [forward, Program.run, handOn, answered]
          split <;> rfl

/-- One message of the app takes the guarded program where its passage says. -/
theorem run_guard_send (middleware : Middleware σ) (server : Server S (World σ)) (message : Message)
    (next : Outcome Unit → Program (World σ)) (exchange : Exchange) (known : S) (world : World σ) :
    (middleware.guard (.send message next) exchange).run server known world =
      let passed := middleware.passage server exchange message known world
      (middleware.guard (next passed.result) passed.exchange).run server passed.known
        passed.world := by
  simp only [guard, passage]
  split
  · rfl
  · split
    · rw [Program.run_perform]
      cases stamped : stampHead exchange message world with
      | mk verdict later =>
          obtain ⟨outcome, stampedExchange⟩ := verdict
          cases outcome with
          | error failure => rfl
          | ok done => exact run_forward middleware server _ message _ known _
    · exact run_forward middleware server exchange message _ known world

theorem run_guard (middleware : Middleware σ) (server : Server S (World σ))
    (program : Program (World σ)) (exchange : Exchange) (known : S) (world : World σ) :
    (middleware.guard program exchange).run server known world =
      ((middleware.guardCourse server program exchange known world).outcome,
        (middleware.guardCourse server program exchange known world).known,
        (middleware.guardCourse server program exchange known world).world) := by
  induction program generalizing exchange known world with
  | finish ending => rfl
  | send message next ih =>
      rw [run_guard_send]
      exact ih _ _ _ _
  | receive next ih => exact ih _ _ _ _
  | pause next ih => exact ih _ _ _ _
  | effect change next ih => exact ih _ _ _ _

/-- The run of the wrapped app is its course without the notes. -/
theorem run_wrap (middleware : Middleware σ) (server : Server S (World σ)) (app : App (World σ))
    (scope : Scope) (known : S) (world : World σ) :
    (middleware.wrap app scope).run server known world =
      ((middleware.course server app scope known world).outcome,
        (middleware.course server app scope known world).known,
        (middleware.course server app scope known world).world) := by
  unfold wrap course
  cases scope.find? "type" with
  | none => rfl
  | some type =>
      dsimp only
      split
      · exact Program.run_eq_course server (app scope) known world
      · cases Request.ofScope scope middleware.trustProxy with
        | error fault => rfl
        | ok request => exact run_guard middleware server (app scope) _ known _

theorem course_of_http (middleware : Middleware σ) (server : Server S (World σ))
    (app : App (World σ)) {scope : Scope} (http : scope.find? "type" = some (.str "http"))
    {request : Request} (built : Request.ofScope scope middleware.trustProxy = .ok request)
    (known : S) (world : World σ) :
    middleware.course server app scope known world =
      middleware.attendCourse server request (app scope) known world := by
  simp [course, http, built, Value.isText]

/-- A middleware whose records hold the status alone. -/
def statusOnly (sink : Sink Unit) : Middleware Unit where
  registry :=
    { extractors := Extractor.builtins Credentials.userName
      formats := [("brief", [("status", ⟨"Status", "status", []⟩)])] }
  formatName := "brief"
  trustProxy := false
  handleExceptions := true
  sink := sink
  logger := "requests"

end Middleware
end RequestLog
