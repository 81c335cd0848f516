import RequestLog.Proofs.Middleware.Course
import RequestLog.Proofs.Registry.Fields

/-!
# Accounts of a call

The parties of a call can keep an account of what they do: the server of the messages that it
answers and hands out, the app of what it is told, what it changes and how it ends, and the sink of
the records that it is handed.  The account is kept beside the state of the extractors, so it is the
middleware itself that runs among such parties, and it runs as among any others: compiling,
finishing and handing on go the same and leave the account to the parties.

`Path` says what an account tells of the world.  Between two acts of the parties the middleware does
nothing to the world but take stamps and finish the exchange, and what shows of that is in the
course.
-/

namespace RequestLog

/-- What a party of a call does. -/
inductive Deed where
  /-- The server answered a message that it was handed. -/
  | answered (message : Message) (answer : Outcome Unit)
  /-- The server handed out a message. -/
  | offered (message : Message)
  /-- The app was told the result of sending a message. -/
  | heard (message : Message) (result : Outcome Unit)
  /-- The app changed the world. -/
  | changed
  /-- The app returned or failed. -/
  | ended (ending : Outcome Unit)
  /-- The sink was handed a record, and returned or failed. -/
  | took (severity : Severity) (record : Record) (result : Outcome Unit)

namespace Deed

/-- What shows of a deed in the course of the call. -/
def incident? {σ : Type} : Deed → Option (Incident σ)
  | answered message answer => some (.forwarded message answer)
  | heard message result => some (.told message result)
  | ended ending => some (.ended ending)
  | took severity record _ => some (.emitted severity record)
  | offered _ | changed => none

end Deed

/-- A deed, with the world in which it was done and the world that it left. -/
structure Act (σ : Type) where
  /-- The deed. -/
  deed : Deed
  /-- The world before. -/
  found : World σ
  /-- The world after. -/
  left : World σ

/-- What was done, in order. -/
abbrev Account (σ : Type) := List (Act σ)

/-- What shows of the acts in the course of the call. -/
def Account.incidents {σ : Type} (account : Account σ) : List (Incident σ) :=
  account.filterMap fun act => act.deed.incident?

theorem Account.incidents_append {σ : Type} (front back : Account σ) :
    incidents (front ++ back) = incidents front ++ incidents back :=
  List.filterMap_append

/-- Another party than the middleware did it. -/
def Incident.isDeed {σ : Type} : Incident σ → Bool
  | reported _ | finished _ _ => false
  | _ => true

/-! ## Keeping something beside the state -/

/-- The extractor, with something kept beside its state that it leaves alone. -/
def Extractor.carrying {σ : Type} (α : Type) (extractor : Extractor σ) : Extractor (σ × α) where
  name := extractor.name
  run view args state :=
    let drawn := extractor.run view args state.1
    (drawn.1, drawn.2, state.2)

namespace Registry

variable {σ α : Type} (registry : Registry σ)

/-- The registry, with something kept beside the state that its extractors leave alone. -/
def carrying (α : Type) : Registry (σ × α) where
  extractors := registry.extractors.map fun entry => (entry.1, entry.2.carrying α)
  formats := registry.formats

theorem draw_carrying (view : Exchange.View) (token : Token) (state : σ) (kept : α) :
    (registry.carrying α).draw view token (state, kept) =
      ((registry.draw view token state).1, (registry.draw view token state).2, kept) := by
  have found : (registry.carrying α).lookup? token.key =
      (registry.lookup? token.key).map (Extractor.carrying α) :=
    registry.extractors.find?_map (fun _ extractor => extractor.carrying α) token.key
  rw [draw, draw, found]
  cases registry.lookup? token.key <;> rfl

theorem compileTokens_carrying (view : Exchange.View) (tokens : List Token) (record : Record)
    (state : σ) (kept : α) :
    let compiled := registry.compileTokens view tokens record state
    (registry.carrying α).compileTokens view tokens record (state, kept) =
      { outcome := compiled.outcome
        complaints := compiled.complaints
        state := (compiled.state, kept) } := by
  induction tokens generalizing record state with
  | nil => rfl
  | cons token rest ih =>
      rw [compileTokens_cons, compileTokens_cons, draw_carrying]
      obtain ⟨outcome, later⟩ := registry.draw view token state
      cases outcome with
      | ok value => exact ih _ _
      | error failure =>
          dsimp only
          split
          · rw [ih]
          · rfl

theorem compile_carrying (name : String) (view : Exchange.View) (state : σ) (kept : α) :
    let compiled := registry.compile name view state
    (registry.carrying α).compile name view (state, kept) =
      { outcome := compiled.outcome
        complaints := compiled.complaints
        state := (compiled.state, kept) } := by
  have resolved : (registry.carrying α).resolve name = registry.resolve name := rfl
  rw [compile, compile, resolved]
  cases registry.resolve name with
  | error failure => rfl
  | ok format => exact registry.compileTokens_carrying view format.tokens [] state kept

end Registry

namespace World

variable {σ α : Type}

/-- The world, with something kept beside the state of the extractors. -/
def beside (world : World σ) (kept : α) : World (σ × α) :=
  ⟨world.clock, (world.state, kept), world.logs⟩

/-- The world without what is kept beside the state. -/
def bare (world : World (σ × α)) : World σ :=
  ⟨world.clock, world.state.1, world.logs⟩

/-- The world that a deed leaves, with the deed added to the account. -/
def doing (deed : Deed) (world : World (σ × Account σ)) (left : World σ) : World (σ × Account σ) :=
  left.beside (world.state.2 ++ [⟨deed, world.bare, left⟩])

theorem log_beside (world : World σ) (kept : α) (logger : String) (level : Int) (template : Value)
    (arguments : List Value) (access : Option Value) (failure : Option Failure) :
    (world.beside kept).log logger level template arguments access failure =
      (world.log logger level template arguments access failure).beside kept := rfl

theorem complain_beside (world : World σ) (kept : α) (complaints : List FieldFailure) :
    (world.beside kept).complain complaints = (world.complain complaints).beside kept := by
  simp only [complain]
  induction complaints generalizing world with
  | nil => rfl
  | cons complaint rest ih => rw [List.foldl_cons, List.foldl_cons, log_beside, ih]

theorem compile_beside (world : World σ) (kept : α) (registry : Registry σ) (name : String)
    (request : Request) (response : Option Response) :
    let compiled := world.compile registry name request response
    (world.beside kept).compile (registry.carrying α) name request response =
      (compiled.1, compiled.2.beside kept) := by
  let view := world.view request response
  let left := registry.compile name view world.state
  have same := registry.compile_carrying name view world.state kept
  exact (congrArg (world.beside kept).settle same).trans
    (congrArg (Prod.mk _) (complain_beside { world with state := left.state } kept left.complaints))

end World

/-! ## Parties that keep an account -/

/-- The server, keeping an account of what it does. -/
def Server.noting {S σ : Type} (server : Server S (World σ)) :
    Server S (World (σ × Account σ)) where
  answer := server.answer
  offer := server.offer
  noteSent message answer world :=
    world.doing (.answered message answer) (server.noteSent message answer world.bare)
  noteReceived message world :=
    world.doing (.offered message) (server.noteReceived message world.bare)

/-- The sink, keeping an account of what it does. -/
def Sink.noting {σ : Type} (sink : Sink σ) : Sink (σ × Account σ) := fun severity record world =>
  let taken := sink severity record world.bare
  (taken.1, world.doing (.took severity record taken.1) taken.2)

/-- The program, keeping an account of what it does. -/
def Program.noting {σ : Type} : Program (World σ) → Program (World (σ × Account σ))
  | .finish ending =>
      .effect (fun world => world.doing (.ended ending) world.bare) fun _ => .finish ending
  | .send message next =>
      .send message fun result =>
        .effect (fun world => world.doing (.heard message result) world.bare) fun _ =>
          noting (next result)
  | .receive next => .receive fun message => noting (next message)
  | .pause next => .pause fun result => noting (next result)
  | .effect change next =>
      .effect (fun world => world.doing .changed (change world.bare)) fun world =>
        noting (next world.bare)

/-- The app, keeping an account of what it does in each call. -/
def App.noting {σ : Type} (app : App (World σ)) : App (World (σ × Account σ)) := fun scope =>
  (app scope).noting

namespace Middleware

variable {S σ : Type} (middleware : Middleware σ)

/-- The middleware, with a sink that keeps an account and extractors that leave it alone. -/
def noting : Middleware (σ × Account σ) where
  registry := middleware.registry.carrying (Account σ)
  formatName := middleware.formatName
  trustProxy := middleware.trustProxy
  handleExceptions := middleware.handleExceptions
  sink := middleware.sink.noting
  logger := middleware.logger

theorem draft_noting (exchange : Exchange) (world : World σ) (account : Account σ) :
    let drafted := middleware.draft exchange world
    middleware.noting.draft exchange (world.beside account) =
      (drafted.1, drafted.2.beside account) := by
  have same := world.compile_beside account middleware.registry middleware.formatName
    exchange.request (some exchange.response)
  rw [draft, draft]
  cases Severity.ofStatus exchange.response.status with
  | error fault => rfl
  | ok severity =>
      simp only [noting, same]
      obtain ⟨outcome, later⟩ := world.compile middleware.registry middleware.formatName
        exchange.request (some exchange.response)
      cases outcome <;> rfl

theorem logLoss_beside (result : Outcome Unit) (world : World σ) (account : Account σ) :
    logLoss result (world.beside account) = (logLoss result world).beside account := by
  cases result with
  | ok taken => rfl
  | error failure =>
      simp only [logLoss]
      split <;> rfl

theorem logFailure_noting (request : Request) (ending : Outcome Unit) (world : World σ)
    (account : Account σ) :
    middleware.noting.logFailure request ending (world.beside account) =
      (middleware.logFailure request ending world).beside account := by
  cases ending with
  | ok done => rfl
  | error failure =>
      have same_option : middleware.noting.handleExceptions = middleware.handleExceptions := rfl
      simp only [logFailure, same_option]
      split <;> rfl

/-! ## Finishing -/

/-- How an exchange is finished in a world: what shows of it, what the sink does, and what is
left. -/
inductive Finishes (exchange : Exchange) (present : World σ) :
    List (Incident σ) → Account σ → World σ → Prop where
  /-- It was finished before, and nothing happens. -/
  | already (finished : exchange.stage = .finished) : Finishes exchange present [] [] present
  /-- There is no record, and the sink does nothing. -/
  | unmade (unfinished : exchange.stage ≠ .finished) {failure : Failure} {later : World σ}
      (drafted : middleware.draft exchange present = (.error failure, later)) :
      Finishes exchange present [.finished exchange present] [] (logLoss (.error failure) later)
  /-- The sink is handed the record, once. -/
  | handed (unfinished : exchange.stage ≠ .finished) {severity : Severity} {record : Record}
      {later left : World σ} {result : Outcome Unit}
      (drafted : middleware.draft exchange present = (.ok (severity, record), later))
      (taken : middleware.sink severity record later = (result, left)) :
      Finishes exchange present [.finished exchange present, .emitted severity record]
        [⟨.took severity record result, later, left⟩] (logLoss result left)

/-- What the parties tell of it is what shows of it, less what the middleware does itself. -/
theorem Finishes.shows {middleware : Middleware σ} {exchange : Exchange} {present last : World σ}
    {incidents : List (Incident σ)} {account : Account σ}
    (finishes : middleware.Finishes exchange present incidents account last) :
    account.incidents = incidents.filter Incident.isDeed := by
  cases finishes <;> rfl

/-- All that shows of handing a record to the sink is what the sink does. -/
theorem filter_isDeed_emission (exchange : Exchange) (world : World σ) :
    (middleware.emission exchange world).filter Incident.isDeed =
      middleware.emission exchange world := by
  unfold emission
  split <;> rfl

/-- Finishing goes the same among parties that keep accounts, and only the sink adds to them. -/
theorem complete_noting (exchange : Exchange) (world : World σ) :
    let completed := middleware.complete exchange world
    ∃ acts, middleware.Finishes exchange world (middleware.completion exchange world) acts
        completed.2 ∧
      ∀ account, middleware.noting.complete exchange (world.beside account) =
        (completed.1, completed.2.beside (account ++ acts)) := by
  by_cases finished : exchange.stage = .finished
  · simp only [complete_of_finished _ finished, completion, if_pos finished]
    exact ⟨[], .already finished, fun account => by rw [List.append_nil]⟩
  · simp only [complete_of_unfinished _ finished, completion, if_neg finished, record_eq_draft,
      draft_noting, emission]
    rcases drafted : middleware.draft exchange world with ⟨result | ⟨severity, record⟩, later⟩
    · refine ⟨[], .unmade finished drafted, fun account => ?_⟩
      rw [List.append_nil]
      exact congrArg (Prod.mk _) (logLoss_beside _ later account)
    · dsimp only
      rcases taken : middleware.sink severity record later with ⟨result, left⟩
      refine ⟨_, .handed finished drafted taken, fun account => ?_⟩
      have noted : middleware.noting.sink severity record (later.beside account) =
          (result, left.beside (account ++ [⟨.took severity record result, later, left⟩])) := by
        have bare_later : (later.beside account).bare = later := rfl
        simp only [noting, Sink.noting, bare_later, taken]
        rfl
      simp only [noted, logLoss_beside]

/-! ## The path of the world -/

/-- The way of the world up to the end of the app: what shows on it and what the parties do.  In
between the middleware takes stamps and finishes the exchange, and does nothing else. -/
inductive Path : World σ → List (Incident σ) → Account σ → World σ → Prop where
  /-- Nothing happens. -/
  | done (world : World σ) : Path world [] [] world
  /-- The middleware takes a stamp. -/
  | stamped {world last : World σ} {incidents : List (Incident σ)} {acts : Account σ}
      (rest : Path world.stamp.2 incidents acts last) : Path world incidents acts last
  /-- The server answers a message. -/
  | answered (message : Message) (answer : Outcome Unit) {found left last : World σ}
      {incidents : List (Incident σ)} {acts : Account σ} (rest : Path left incidents acts last) :
      Path found (.forwarded message answer :: incidents)
        (⟨.answered message answer, found, left⟩ :: acts) last
  /-- The server hands out a message. -/
  | offered (message : Message) {found left last : World σ} {incidents : List (Incident σ)}
      {acts : Account σ} (rest : Path left incidents acts last) :
      Path found incidents (⟨.offered message, found, left⟩ :: acts) last
  /-- The app is told the result of sending a message. -/
  | heard (message : Message) (result : Outcome Unit) {world last : World σ}
      {incidents : List (Incident σ)} {acts : Account σ} (rest : Path world incidents acts last) :
      Path world (.told message result :: incidents)
        (⟨.heard message result, world, world⟩ :: acts) last
  /-- The app changes the world. -/
  | changed {found left last : World σ} {incidents : List (Incident σ)} {acts : Account σ}
      (rest : Path left incidents acts last) :
      Path found incidents (⟨.changed, found, left⟩ :: acts) last
  /-- The middleware finishes the exchange, as it stands then. -/
  | finished {exchange : Exchange} {present left last : World σ}
      {shown incidents : List (Incident σ)} {handed acts : Account σ}
      (finishes : middleware.Finishes exchange present shown handed left)
      (rest : Path left incidents acts last) :
      Path present (shown ++ incidents) (handed ++ acts) last

namespace Path

variable {middleware} {first middle last : World σ}

theorem append {front back : List (Incident σ)} {early late : Account σ}
    (onward : middleware.Path first front early middle)
    (further : middleware.Path middle back late last) :
    middleware.Path first (front ++ back) (early ++ late) last := by
  induction onward with
  | done world => exact further
  | stamped rest ih => exact .stamped (ih further)
  | answered message answer rest ih => exact .answered message answer (ih further)
  | offered message rest ih => exact .offered message (ih further)
  | heard message result rest ih => exact .heard message result (ih further)
  | changed rest ih => exact .changed (ih further)
  | finished finishes rest ih =>
      rw [List.append_assoc, List.append_assoc]
      exact .finished finishes (ih further)

/-- What the parties tell is what shows, less what the middleware does itself. -/
theorem shows {incidents : List (Incident σ)} {account : Account σ}
    (path : middleware.Path first incidents account last) :
    account.incidents = incidents.filter Incident.isDeed := by
  induction path with
  | done world => rfl
  | stamped rest ih => exact ih
  | answered message answer rest ih => exact congrArg (List.cons _) ih
  | offered message rest ih => exact ih
  | heard message result rest ih => exact congrArg (List.cons _) ih
  | changed rest ih => exact ih
  | finished finishes rest ih =>
      rw [List.filter_append, ← ih, ← finishes.shows, Account.incidents_append]

end Path

/-- A passage among parties that keep accounts: the same one, with acts added. -/
structure Passage.NotedAs (passed : Passage S σ) (noted : Passage S (σ × Account σ))
    (account : Account σ) : Prop where
  /-- The app is told the same. -/
  result : noted.result = passed.result
  /-- The exchange comes out the same. -/
  exchange : noted.exchange = passed.exchange
  /-- The server knows the same. -/
  known : noted.known = passed.known
  /-- The world is the same, and the account is this. -/
  world : noted.world = passed.world.beside account

variable (server : Server S (World σ))

theorem handOn_noting (exchange : Exchange) (message : Message) (known : S) (world : World σ) :
    let passed := middleware.handOn server exchange message known world
    ∃ acts, middleware.Path world passed.incidents acts passed.world ∧
      ∀ account, passed.NotedAs (middleware.noting.handOn server.noting exchange message known
        (world.beside account)) (account ++ acts) := by
  have same_answer : server.noting.answer known message = server.answer known message := rfl
  let answered (answer : Outcome Unit) : Act σ :=
    ⟨.answered message answer, world, server.noteSent message answer world⟩
  simp only [handOn, same_answer]
  rcases (server.answer known message).1 with failure | taken
  · exact ⟨[answered (.error failure)], .answered message _ (.done _),
      fun account => ⟨rfl, rfl, rfl, rfl⟩⟩
  · dsimp only
    split
    · obtain ⟨acts, finishes, noted⟩ :=
        middleware.complete_noting exchange (server.noteSent message (.ok ()) world)
      have path := Path.finished finishes (.done _)
      rw [List.append_nil, List.append_nil] at path
      refine ⟨answered (.ok ()) :: acts, path.answered message _, fun account => ?_⟩
      have goes := noted (account ++ [answered (.ok ())])
      rw [List.append_assoc] at goes
      exact ⟨congrArg (·.1.1) goes, congrArg (·.1.2) goes, rfl, congrArg Prod.snd goes⟩
    · exact ⟨[answered (.ok ())], .answered message _ (.done _),
        fun account => ⟨rfl, rfl, rfl, rfl⟩⟩

/-- One message of the app goes the same among parties that keep accounts. -/
theorem passage_noting (exchange : Exchange) (message : Message) (known : S) (world : World σ) :
    let passed := middleware.passage server exchange message known world
    ∃ acts, middleware.Path world passed.incidents acts passed.world ∧
      ∀ account, passed.NotedAs (middleware.noting.passage server.noting exchange message known
        (world.beside account)) (account ++ acts) := by
  have same_stamp : ∀ account : Account σ, stampHead exchange message (world.beside account) =
      ((stampHead exchange message world).1, (stampHead exchange message world).2.beside account) :=
    fun _ => rfl
  have nothing : ∀ result exchange (later : World σ) (account : Account σ),
      Passage.NotedAs (⟨[], result, exchange, known, later⟩ : Passage S σ)
        ⟨[], result, exchange, known, later.beside account⟩ (account ++ []) :=
    fun _ _ _ account => ⟨rfl, rfl, rfl, by rw [List.append_nil]⟩
  simp only [passage, same_stamp]
  split
  · exact ⟨[], .done world, nothing _ _ world⟩
  · split
    · cases (stampHead exchange message world).1.1 with
      | error failure => exact ⟨[], .stamped (.done _), nothing _ _ _⟩
      | ok stamped =>
          obtain ⟨acts, path, noted⟩ := middleware.handOn_noting server
            (stampHead exchange message world).1.2 message known world.stamp.2
          exact ⟨acts, .stamped path, noted⟩
    · exact middleware.handOn_noting server exchange message known world

end Middleware
end RequestLog
