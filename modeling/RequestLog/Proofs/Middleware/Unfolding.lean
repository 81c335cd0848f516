import RequestLog.Proofs.Interpolation
import RequestLog.Proofs.Middleware.Account
import RequestLog.Proofs.Middleware.Completion

/-!
# How a call unfolds

A call goes on until the app is done; then its failure is logged and the exchange finished, in this
order, unless the last part of a body has finished it before.  `guardCourse_ends` follows the world
through a run to this place and says at once what shows of the run, what the parties tell of it, and
where it leaves the world.  Hence every exchange is finished once, and the sink is called at most
once.
-/

namespace RequestLog

namespace Incident

variable {σ : Type}

/-- The app was done, or its failure was logged. -/
def isClosing : Incident σ → Bool
  | ended _ | reported _ => true
  | _ => false

end Incident

namespace Middleware

variable {S σ : Type} (middleware : Middleware σ) (server : Server S (World σ))

/-! ## What is logged about the end of the app -/

/-- What is logged about the end of an app, what shows of it, and the world then. -/
inductive Reported (request : Request) (latest : World σ) :
    Outcome Unit → List (Incident σ) → World σ → Prop where
  /-- An ordinary failure is logged once, as an error that names the request. -/
  | logged {failure : Failure} (ordinary : failure.isOrdinary = true)
      (handles : middleware.handleExceptions = true) (entry : Logging.Entry)
      (logger : entry.logger = middleware.logger) (level : entry.level = Severity.error.level)
      (message : entry.message =
        .ok ("unhandled exception: " ++ request.method.text ++ " " ++ request.url.text))
      (cause : entry.failure = some failure) :
      Reported request latest (.error failure) [.reported failure]
        { latest with logs := latest.logs.log entry }
  /-- Nothing is logged if the app returns, if its failure is not ordinary, or if failures are not
  to be logged. -/
  | silent {ending : Outcome Unit}
      (nothing : ∀ failure, ending = .error failure → failure.isOrdinary = true →
        middleware.handleExceptions = false) :
      Reported request latest ending [] latest

theorem message_of_failure (world : World σ) (logger : String) (method url : Value)
    (failure : Failure) :
    (world.entry logger 40 (.str "unhandled exception: %s %s") [method, url] none
      (some failure)).message =
        .ok ("unhandled exception: " ++ method.text ++ " " ++ url.text) := by
  have filled := Interpolation.interpolate_templateOf "unhandled exception: ".toList
    [(method, [' ']), (url, [])] (by decide) (by simp) (by simp)
  have spelled : String.ofList ("unhandled exception: ".toList ++ ['%', 's', ' ', '%', 's']) =
      "unhandled exception: %s %s" := by decide
  have message : String.ofList ("unhandled exception: ".toList ++
      Interpolation.filledWith [(method, [' ']), (url, [])]) =
        "unhandled exception: " ++ method.text ++ " " ++ url.text := by
    apply String.toList_injective
    simp [Interpolation.filledWith]
  have several : LogArguments.ofList [method, url] = .positional [method, url] := by
    rw [LogArguments.ofList]
    simp
  rw [Logging.Entry.message, World.entry, several, ← message, ← filled]
  exact congrArg (interpolate · _) spelled.symm

/-- The failure of an app is logged as it should be. -/
theorem reported_logFailure (request : Request) (ending : Outcome Unit) (latest : World σ) :
    middleware.Reported request latest ending (middleware.report ending)
      (middleware.logFailure request ending latest) := by
  cases ending with
  | ok done => exact .silent fun failure failed => by cases failed
  | error failure =>
      rw [report, logFailure]
      split
      · next logs =>
          obtain ⟨ordinary, handles⟩ := Bool.and_eq_true_iff.mp logs
          exact .logged ordinary handles _ rfl rfl
            (message_of_failure latest middleware.logger request.method request.url failure) rfl
      · next quiet =>
          refine .silent fun cause same ordinary => ?_
          obtain rfl := Except.error.inj same
          simpa [ordinary] using quiet

/-- Only the method and the URL of the request are named. -/
theorem Reported.of_same {middleware : Middleware σ} {request other : Request} {latest : World σ}
    {ending : Outcome Unit} {reports : List (Incident σ)} {reported : World σ}
    (holds : middleware.Reported request latest ending reports reported)
    (method : other.method = request.method) (url : other.url = request.url) :
    middleware.Reported other latest ending reports reported := by
  cases holds with
  | logged ordinary handles entry logger level message cause =>
      exact .logged ordinary handles entry logger level (by rw [message, method, url]) cause
  | silent nothing => exact .silent nothing

/-- The report is the work of the middleware itself. -/
theorem Reported.filter_isDeed {middleware : Middleware σ} {request : Request}
    {latest reported : World σ} {ending : Outcome Unit} {reports : List (Incident σ)}
    (report : middleware.Reported request latest ending reports reported) :
    reports.filter Incident.isDeed = [] := by
  cases report <;> rfl

/-! ## The end of the app -/

/-- A course ends at one place: the app is done there, its failure is logged and the exchange
finished. -/
structure EndsAt (course : Course S σ) (start : Exchange) (begun : World σ)
    (front : List (Incident σ)) (ending : Outcome Unit) (reached : Exchange) (latest : World σ)
    (early late : Account σ) : Prop where
  /-- The report comes right after the end, and the completion last. -/
  split : course.incidents = front ++ .ended ending :: (middleware.report ending ++
    middleware.completion reached (middleware.logFailure reached.request ending latest))
  /-- The call ends with this. -/
  concludes : (course.outcome, course.world) = middleware.conclude reached ending latest
  /-- The app was not done before, and nothing was reported. -/
  quiet : ∀ incident ∈ front, incident.isClosing = false
  /-- The request has stayed the same. -/
  request : reached.request = start.request
  /-- The exchange is finished if it was, or if the server has taken a last part of the body. -/
  finished : reached.stage = .finished ↔
    start.stage = .finished ∨ ∃ incident ∈ front, incident.isTakenFinalBody = true
  /-- Nothing was finished or recorded if the exchange is not finished. -/
  untouched : reached.stage ≠ .finished → ∀ incident ∈ front, incident.isCompletion = false
  /-- The world comes to the end of the app by this way. -/
  path : middleware.Path begun front early latest
  /-- From there it goes on as the exchange is finished. -/
  finishes : middleware.Finishes reached (middleware.logFailure reached.request ending latest)
    (middleware.completion reached (middleware.logFailure reached.request ending latest)) late
    course.world

/-- The request of an exchange stays the same when a message is handed on. -/
theorem request_afterSend (exchange : Exchange) (message : Message) (stamp : Stamp) :
    (exchange.afterSend message stamp).request = exchange.request := by
  rw [Exchange.afterSend]
  split
  · rw [Exchange.stampHead]
    split <;> rfl
  · rfl

theorem request_complete (exchange : Exchange) (world : World σ) :
    (middleware.complete exchange world).1.2.request = exchange.request := by
  by_cases finished : exchange.stage = .finished
  · rw [complete_of_finished _ finished]
  · rw [complete_of_unfinished _ finished]

theorem request_passage (exchange : Exchange) (message : Message) (known : S) (world : World σ) :
    (middleware.passage server exchange message known world).exchange.request =
      exchange.request := by
  rcases middleware.passage_cases server exchange message known world with
    ⟨failure, -, -, same⟩ | ⟨answer, -, -, same, -⟩ | ⟨-, present, -, -, same⟩
  · rw [same, request_afterSend]
  · rw [same, request_afterSend]
  · rw [same, request_complete, request_afterSend]

theorem isClosing_of_mem_completion {exchange : Exchange} {world : World σ} {incident : Incident σ}
    (within : incident ∈ middleware.completion exchange world) : incident.isClosing = false := by
  simp only [completion, emission] at within
  split at within
  · cases within
  · split at within
    · rw [List.mem_singleton.mp within]
      rfl
    · rcases List.mem_cons.mp within with rfl | emitted
      · rfl
      · rw [List.mem_singleton.mp emitted]
        rfl

theorem isClosing_of_mem_passage {exchange : Exchange} {message : Message} {known : S}
    {world : World σ} {incident : Incident σ}
    (within : incident ∈ (middleware.passage server exchange message known world).incidents) :
    incident.isClosing = false := by
  rcases middleware.passage_cases server exchange message known world with
    ⟨failure, shows, -⟩ | ⟨answer, shows, -⟩ | ⟨-, present, shows, -⟩
  · rw [shows] at within
    cases within
  · rw [shows, List.mem_singleton] at within
    rw [within]
    rfl
  · rw [shows, List.mem_cons] at within
    rcases within with rfl | completion
    · rfl
    · exact middleware.isClosing_of_mem_completion completion

/-- What one message of the app does to the stage of the exchange. -/
theorem stage_passage (exchange : Exchange) (message : Message) (known : S) (world : World σ) :
    let passed := middleware.passage server exchange message known world
    (passed.exchange.stage = .finished ↔ exchange.stage = .finished ∨
        ∃ incident ∈ passed.incidents, incident.isTakenFinalBody = true) ∧
      (passed.exchange.stage ≠ .finished →
        ∀ incident ∈ passed.incidents, incident.isCompletion = false) := by
  intro passed
  rcases middleware.passage_advances server exchange message known world with
    ⟨same, -, quiet⟩ | ⟨last, ends, present, shows⟩
  · refine ⟨?_, fun _ incident within => (quiet incident within).1⟩
    have none_final : ¬∃ incident ∈ passed.incidents, incident.isTakenFinalBody = true := by
      rintro ⟨incident, within, final⟩
      rw [(quiet incident within).2] at final
      cases final
    rw [show passed.exchange = _ from same, or_iff_left none_final]
    constructor
    · intro finished
      by_contra unfinished
      exact Exchange.afterSend_unfinished unfinished message _ finished
    · intro finished
      rw [Exchange.afterSend_of_finished finished, finished]
  · have gone : passed.exchange.stage = .finished := ends
    refine ⟨iff_of_true gone (Or.inr ⟨.forwarded message (.ok ()), ?_, last⟩),
      fun unfinished => absurd gone unfinished⟩
    rw [show passed.incidents = _ from shows]
    exact List.mem_cons_self

/-- The end of the app goes the same among parties that keep accounts. -/
theorem conclude_noting (exchange : Exchange) (ending : Outcome Unit) (world : World σ) :
    let concluded := middleware.conclude exchange ending world
    let reported := middleware.logFailure exchange.request ending world
    ∃ late, middleware.Finishes exchange reported (middleware.completion exchange reported) late
        concluded.2 ∧
      ∀ account, middleware.noting.conclude exchange ending (world.beside account) =
        (concluded.1, concluded.2.beside (account ++ late)) := by
  simp only [conclude_eq, middleware.logFailure_noting]
  obtain ⟨late, finishes, noted⟩ :=
    middleware.complete_noting exchange (middleware.logFailure exchange.request ending world)
  exact ⟨late, finishes, fun account => by rw [noted]⟩

theorem endsAt_finish (ending : Outcome Unit) (exchange : Exchange) (known : S) (world : World σ) :
    let course := middleware.guardCourse server (.finish ending) exchange known world
    ∃ late, middleware.EndsAt course exchange world [] ending exchange world [] late ∧
      ∀ account, (middleware.noting.guard (Program.noting (.finish ending)) exchange).run
          server.noting known (world.beside account) =
        (course.outcome, course.known,
          course.world.beside (account ++ ⟨.ended ending, world, world⟩ :: late)) := by
  intro course
  obtain ⟨late, finishes, noted⟩ := middleware.conclude_noting exchange ending world
  refine ⟨late, ⟨rfl, rfl, by simp, rfl, by simp, by simp, .done world, finishes⟩,
    fun account => ?_⟩
  have goes := noted (account ++ [⟨.ended ending, world, world⟩])
  rw [List.append_assoc] at goes
  exact congrArg (fun concluded => (concluded.1, known, concluded.2)) goes

/-- One message of the app takes the guarded program on as its passage says, also among parties that
keep accounts; there the app notes what it is told. -/
theorem run_guard_send_noting {message : Message} {exchange : Exchange} {known : S}
    {world : World σ} {account acts : Account σ}
    (noted : (middleware.passage server exchange message known world).NotedAs
      (middleware.noting.passage server.noting exchange message known (world.beside account))
      (account ++ acts))
    (next : Outcome Unit → Program (World σ)) :
    let passed := middleware.passage server exchange message known world
    (middleware.noting.guard (Program.noting (.send message next)) exchange).run server.noting known
        (world.beside account) =
      (middleware.noting.guard (next passed.result).noting passed.exchange).run server.noting
        passed.known (passed.world.beside
          (account ++ (acts ++ [⟨.heard message passed.result, passed.world, passed.world⟩]))) := by
  rw [Program.noting, run_guard_send]
  simp only [noted.result, noted.exchange, noted.known, noted.world, ← List.append_assoc]
  rfl

/-- A course that ends keeps its end if the world comes to it by another way. -/
theorem EndsAt.alongPath {middleware : Middleware σ} {course : Course S σ} {start : Exchange}
    {begun first : World σ} {front : List (Incident σ)} {ending : Outcome Unit} {reached : Exchange}
    {latest : World σ} {early longer late : Account σ}
    (ends : middleware.EndsAt course start begun front ending reached latest early late)
    (path : middleware.Path first front longer latest) :
    middleware.EndsAt course start first front ending reached latest longer late :=
  ⟨ends.split, ends.concludes, ends.quiet, ends.request, ends.finished, ends.untouched, path,
    ends.finishes⟩

/-- Every run comes to the end of its app, and goes the same among parties that keep accounts. -/
theorem guardCourse_ends (program : Program (World σ)) (exchange : Exchange) (known : S)
    (world : World σ) :
    let course := middleware.guardCourse server program exchange known world
    ∃ front ending reached latest early late,
      middleware.EndsAt course exchange world front ending reached latest early late ∧
      ∀ account, (middleware.noting.guard program.noting exchange).run server.noting known
          (world.beside account) =
        (course.outcome, course.known,
          course.world.beside (account ++ (early ++ ⟨.ended ending, latest, latest⟩ :: late))) := by
  -- The end is that of the rest of the program, and a step only adds to the front and to the acts
  -- before it.  This is for all accounts, as the rest goes on with one that the step has added to.
  induction program generalizing exchange known world with
  | finish ending =>
      obtain ⟨late, ends, noted⟩ := middleware.endsAt_finish server ending exchange known world
      exact ⟨[], ending, exchange, world, [], late, ends, noted⟩
  | send message next ih =>
      let passed := middleware.passage server exchange message known world
      let told : Act σ := ⟨.heard message passed.result, passed.world, passed.world⟩
      obtain ⟨finishes, keeps_open⟩ := middleware.stage_passage server exchange message known world
      obtain ⟨acts, path, passes⟩ := middleware.passage_noting server exchange message known world
      obtain ⟨front, ending, reached, latest, early, late, ends, noted⟩ :=
        ih passed.result passed.exchange passed.known passed.world
      refine ⟨passed.incidents ++ [.told message passed.result] ++ front, ending, reached, latest,
        acts ++ [told] ++ early, late,
        ⟨?_, ends.concludes, fun incident within => ?_, ?_, ?_,
          fun unfinished incident within => ?_, ?_, ends.finishes⟩, fun account => ?_⟩
      · have whole : (middleware.guardCourse server (.send message next) exchange known
            world).incidents = passed.incidents ++ [.told message passed.result] ++
              (middleware.guardCourse server (next passed.result) passed.exchange passed.known
                passed.world).incidents := rfl
        rw [whole, ends.split]
        simp only [List.append_assoc]
      · rw [List.mem_append, List.mem_append, List.mem_singleton] at within
        rcases within with (passing | rfl) | later
        · exact middleware.isClosing_of_mem_passage server passing
        · rfl
        · exact ends.quiet incident later
      · rw [ends.request]
        exact middleware.request_passage server exchange message known world
      · have told_final :
            (Incident.told message passed.result : Incident σ).isTakenFinalBody = false := rfl
        rw [ends.finished, finishes]
        simp only [List.mem_append, List.mem_singleton, or_and_right, exists_or, exists_eq_left,
          told_final, Bool.false_eq_true, false_or, or_assoc]
        exact Iff.rfl
      · have still_open : passed.exchange.stage ≠ .finished :=
          fun finished => unfinished (ends.finished.mpr (Or.inl finished))
        rw [List.mem_append, List.mem_append, List.mem_singleton] at within
        rcases within with (passing | rfl) | later
        · exact keeps_open still_open incident passing
        · rfl
        · exact ends.untouched unfinished incident later
      · exact (path.append (.heard message passed.result (.done _))).append ends.path
      · rw [middleware.run_guard_send_noting server (passes account) next, noted]
        simp only [List.append_assoc]
        rfl
  | receive next ih =>
      obtain ⟨front, ending, reached, latest, early, late, ends, noted⟩ :=
        ih server.offer exchange known (server.noteReceived server.offer world)
      let offered : Act σ := ⟨.offered server.offer, world, server.noteReceived server.offer world⟩
      refine ⟨front, ending, reached, latest, offered :: early, late,
        ends.alongPath (.offered server.offer ends.path), fun account => ?_⟩
      exact (noted (account ++ [offered])).trans (by simp only [List.append_assoc]; rfl)
  | pause next ih => exact ih _ exchange _ _
  | effect change next ih =>
      obtain ⟨front, ending, reached, latest, early, late, ends, noted⟩ :=
        ih world exchange known (change world)
      let changed : Act σ := ⟨.changed, world, change world⟩
      refine ⟨front, ending, reached, latest, changed :: early, late,
        ends.alongPath (.changed ends.path), fun account => ?_⟩
      exact (noted (account ++ [changed])).trans (by simp only [List.append_assoc]; rfl)

/-- How a whole call unfolds: up to the end of the app, then the report of its failure, and then the
exchange is finished. -/
inductive Unfolds (request : Request) (begun : World σ) :
    List (Incident σ) → Account σ → World σ → Prop where
  | call {front reports back : List (Incident σ)} {early late : Account σ} {ending : Outcome Unit}
      {latest reported last : World σ} {exchange : Exchange}
      (path : middleware.Path begun front early latest)
      (report : middleware.Reported request latest ending reports reported)
      (finishes : middleware.Finishes exchange reported back late last) :
      Unfolds request begun (front ++ .ended ending :: (reports ++ back))
        (early ++ ⟨.ended ending, latest, latest⟩ :: late) last

/-- What the parties tell of a call is what shows of it, less what the middleware does itself. -/
theorem Unfolds.shows {middleware : Middleware σ} {request : Request} {begun last : World σ}
    {incidents : List (Incident σ)} {account : Account σ}
    (unfolds : middleware.Unfolds request begun incidents account last) :
    account.incidents = incidents.filter Incident.isDeed := by
  obtain ⟨path, report, finishes⟩ := unfolds
  rw [List.filter_append, List.filter_cons_of_pos rfl, List.filter_append, report.filter_isDeed,
    List.nil_append, ← path.shows, ← finishes.shows, Account.incidents_append]
  rfl

theorem EndsAt.unfolds {middleware : Middleware σ} {course : Course S σ} {start : Exchange}
    {begun : World σ} {front : List (Incident σ)} {ending : Outcome Unit} {reached : Exchange}
    {latest : World σ} {early late : Account σ}
    (ends : middleware.EndsAt course start begun front ending reached latest early late)
    {request : Request} (method : request.method = start.request.method)
    (url : request.url = start.request.url) :
    middleware.Unfolds request begun course.incidents
      (early ++ ⟨.ended ending, latest, latest⟩ :: late) course.world := by
  have report := middleware.reported_logFailure reached.request ending latest
  rw [ends.split]
  exact .call ends.path (report.of_same (by rw [method, ends.request]) (by rw [url, ends.request]))
    ends.finishes

/-- Every call of a request comes to the end of its app. -/
theorem course_ends (app : App (World σ)) {scope : Scope}
    (http : scope.find? "type" = some (.str "http")) {request : Request}
    (built : Request.ofScope scope middleware.trustProxy = .ok request) (known : S)
    (world : World σ) :
    let course := middleware.course server app scope known world
    ∃ front ending reached latest early late,
      middleware.EndsAt course (.begin (request.arrived world.stamp.1 request.address)) world front
        ending reached latest early late ∧
      (middleware.noting.wrap (App.noting app) scope).run server.noting known (world.beside []) =
        (course.outcome, course.known,
          course.world.beside (early ++ ⟨.ended ending, latest, latest⟩ :: late)) := by
  intro course
  let start := Exchange.begin (request.arrived world.stamp.1 request.address)
  obtain ⟨front, ending, reached, latest, early, late, ends, noted⟩ :=
    middleware.guardCourse_ends server (app scope) start known world.stamp.2
  have attended : course = middleware.guardCourse server (app scope) start known world.stamp.2 :=
    middleware.course_of_http server app http built known world
  rw [← attended] at ends noted
  refine ⟨front, ending, reached, latest, early, late, ends.alongPath (.stamped ends.path), ?_⟩
  have read : Request.ofScope scope middleware.noting.trustProxy = .ok request := built
  have wrapped : middleware.noting.wrap (App.noting app) scope =
      middleware.noting.attend request (app scope).noting := by
    simp [wrap, http, read, Value.isText, App.noting]
  rw [wrapped]
  exact noted []

/-- Whatever shows of a call of a request, a call among parties that keep accounts bears out: the
world goes the way that the course shows, and nothing else is done to it. -/
theorem course_unfolds (app : App (World σ)) {scope : Scope}
    (http : scope.find? "type" = some (.str "http")) {request : Request}
    (built : Request.ofScope scope middleware.trustProxy = .ok request) (known : S)
    (world : World σ) :
    let course := middleware.course server app scope known world
    ∃ account,
      (middleware.noting.wrap (App.noting app) scope).run server.noting known (world.beside []) =
        (course.outcome, course.known, course.world.beside account) ∧
      middleware.Unfolds request world course.incidents account course.world := by
  obtain ⟨_, _, _, _, _, _, ends, noted⟩ :=
    middleware.course_ends server app http built known world
  exact ⟨_, noted, ends.unfolds rfl rfl⟩

/-- Of a course that is completed, the parties tell what comes before, what the sink is handed, and
what comes after. -/
theorem CompletesAt.filter_isDeed {middleware : Middleware σ}
    {incidents front signal : List (Incident σ)} {exchange : Exchange} {present : World σ}
    {after : List (Incident σ)}
    (completes : middleware.CompletesAt incidents front signal exchange present after) :
    incidents.filter Incident.isDeed = (front ++ signal).filter Incident.isDeed ++
      (middleware.emission exchange present ++ after.filter Incident.isDeed) := by
  rw [completes.split, List.filter_append, List.filter_cons_of_neg (by simp [Incident.isDeed]),
    List.filter_append (middleware.emission exchange present), middleware.filter_isDeed_emission]

/-- Every exchange of a request is finished exactly once, and the sink is called at most once.  It
is finished right after the server has taken the first last part of the body, or else when the app
is done; and the sink is called if the severity and the fields of the record can be found.  This is
what the parties tell of the run: before that the sink does nothing, then it takes the record, if
there is one, and then it does nothing any more. -/
theorem completes_exactly_once (app : App (World σ)) {scope : Scope}
    (http : scope.find? "type" = some (.str "http")) {request : Request}
    (built : Request.ofScope scope middleware.trustProxy = .ok request) (known : S)
    (world : World σ) :
    let course := middleware.course server app scope known world
    (middleware.wrap app scope).run server known world =
        (course.outcome, course.known, course.world) ∧
      ∃ account,
        (middleware.noting.wrap (App.noting app) scope).run server.noting known
            (world.beside []) =
          (course.outcome, course.known, course.world.beside account) ∧
        middleware.Unfolds request world course.incidents account course.world ∧
        ∃ front signal exchange present after,
          middleware.CompletesAt course.incidents front signal exchange present after ∧
          account.incidents = (front ++ signal).filter Incident.isDeed ++
            (middleware.emission exchange present ++ after.filter Incident.isDeed) ∧
          course.incidents.filter Incident.isCompletion =
            .finished exchange present :: middleware.emission exchange present ∧
          (middleware.complete exchange present).1.2.stage = .finished ∧
          ((middleware.emission exchange present = [] ∧ ∃ failure later, ∀ sink,
              ({ middleware with sink := sink }).record exchange present =
                (.error failure, later)) ∨
            ∃ severity record later,
              middleware.emission exchange present = [.emitted severity record] ∧ ∀ sink,
                ({ middleware with sink := sink }).record exchange present =
                  sink severity record later) ∧
          ∀ severity record, Severity.ofStatus exchange.response.status = .ok severity →
            (present.compile middleware.registry middleware.formatName exchange.request
              (some exchange.response)).1 = .ok record →
            middleware.emission exchange present = [.emitted severity record] := by
  intro course
  refine ⟨middleware.run_wrap server app scope known world, ?_⟩
  obtain ⟨account, noted, unfolds⟩ := middleware.course_unfolds server app http built known world
  obtain ⟨front, signal, exchange, present, after, completes, -⟩ :=
    middleware.course_completes server (fun _ _ => True) (fun _ _ _ _ _ _ => trivial) app http
      built known world trivial
  exact ⟨account, noted, unfolds, front, signal, exchange, present, after, completes,
    unfolds.shows.trans completes.filter_isDeed, completes.filter_isCompletion,
    middleware.stage_complete exchange present, middleware.record_of_every_sink exchange present,
    fun severity record judged compiled => middleware.emission_eq judged compiled⟩

/-- A sink that is interrupted at the last part of a body is not called again when the app is
done. -/
theorem completes_exactly_once_when_interrupted :
    let middleware := statusOnly (.failing (.saying .interrupt "stop"))
    let server : Server Nat (World Unit) := .refusing 0 [] (.saying .runtime "refused")
    let last : Message := [("type", .str "http.response.body")]
    let app : App (World Unit) := fun _ => Script.program 0 [.send last, .send last]
    let scope : Scope := [("type", .str "http")]
    let world := World.start ⟨0⟩ () []
    let course := middleware.course server app scope 0 world
    ∃ account exchange present,
      (middleware.noting.wrap (App.noting app) scope).run server.noting 0 (world.beside []) =
        (course.outcome, course.known, course.world.beside account) ∧
      account.incidents.filter Incident.isCompletion = [.emitted .error [("Status", .null)]] ∧
      course.incidents.filter Incident.isCompletion =
        .finished exchange present :: middleware.emission exchange present ∧
      (middleware.complete exchange present).1.2.stage = .finished := by
  intro middleware server last app scope world course
  obtain ⟨request, built⟩ : ∃ request, Request.ofScope scope false = .ok request := ⟨_, rfl⟩
  obtain ⟨-, account, noted, unfolds, front, signal, exchange, present, after, -, -, once,
    finished, -, -⟩ := middleware.completes_exactly_once server app rfl built 0 world
  refine ⟨account, exchange, present, noted, ?_, once, finished⟩
  rw [unfolds.shows]
  rfl

end Middleware
end RequestLog
