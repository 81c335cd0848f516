import RequestLog.Proofs.Middleware.Stamping
import RequestLog.Proofs.Registry.Builtins

/-!
# The first head decides

The record of a request is made of the request, as it arrived, and of the first head of the
response.  If that head can be read, the exchange is past its arrival and no later message changes
it (`afterAll_eq_afterFirst`), so two runs that begin alike and send the same first head, or none,
emit the same record, however they go on.  The stopwatch is read for the arrival and for that head,
and for nothing else (`AloneAtStopwatch.guardCourse`).
-/

namespace RequestLog

namespace Exchange

theorem afterAll_of_stage_ne {exchange : Exchange} (gone : exchange.stage ≠ .arrived)
    (sends : List (Message × Stamp)) : exchange.afterAll sends = exchange := by
  induction sends with
  | nil => rfl
  | cons next later ih =>
      have same : exchange.afterSend next.1 next.2 = exchange := by simp [afterSend, gone]
      rw [afterAll, List.foldl_cons, same]
      exact ih

/-- The heads among messages. -/
def headsOf (sends : List (Message × Stamp)) : List (Message × Stamp) :=
  sends.filter fun sent => sent.1.isHead

theorem headsOf_of_isHead {message : Message} (head : message.isHead = true) (stamp : Stamp)
    (later : List (Message × Stamp)) :
    headsOf ((message, stamp) :: later) = (message, stamp) :: headsOf later :=
  List.filter_cons_of_pos head

theorem headsOf_of_not_isHead {message : Message} (no_head : message.isHead = false) (stamp : Stamp)
    (later : List (Message × Stamp)) : headsOf ((message, stamp) :: later) = headsOf later :=
  List.filter_cons_of_neg (by simp [no_head])

/-- A head that can be read takes the exchange past its arrival. -/
theorem afterSend_stage_ne_arrived {message : Message} (head : message.isHead = true)
    (read : message.isReadable = true) (exchange : Exchange) (stamp : Stamp) :
    (exchange.afterSend message stamp).stage ≠ .arrived := by
  rw [Ne, afterSend_stage_eq_arrived_iff]
  rintro ⟨-, unreadable⟩
  simp [unreadable head] at read

/-- The exchange once the first head, if there is one, has been stamped. -/
def afterFirst (exchange : Exchange) : Option (Message × Stamp) → Exchange
  | none => exchange
  | some (head, stamp) => (exchange.stampHead stamp head).2

/-- If the first head can be read, it alone takes an exchange on that waits for one. -/
theorem afterAll_eq_afterFirst {exchange : Exchange} (waits : exchange.stage = .arrived)
    (sends : List (Message × Stamp))
    (readable : ∀ first ∈ (headsOf sends).head?, first.1.isReadable = true) :
    exchange.afterAll sends = exchange.afterFirst (headsOf sends).head? := by
  induction sends with
  | nil => rfl
  | cons next later ih =>
      obtain ⟨message, stamp⟩ := next
      rw [afterAll, List.foldl_cons]
      cases head : message.isHead with
      | false =>
          have same : exchange.afterSend message stamp = exchange := by simp [afterSend, head]
          rw [headsOf_of_not_isHead head] at readable ⊢
          rw [same]
          exact ih readable
      | true =>
          have stamped :
              exchange.afterSend message stamp = (exchange.stampHead stamp message).2 := by
            simp [afterSend, head, waits]
          rw [headsOf_of_isHead head] at readable ⊢
          have gone := exchange.afterSend_stage_ne_arrived head (readable _ rfl) stamp
          exact (afterAll_of_stage_ne gone later).trans stamped

end Exchange

namespace World

variable {σ : Type} (world : World σ)

theorem clock_complain (complaints : List FieldFailure) :
    (world.complain complaints).clock = world.clock := by
  induction complaints generalizing world with
  | nil => rfl
  | cons first rest ih => exact ih _

theorem clock_compile (registry : Registry σ) (name : String) (request : Request)
    (response : Option Response) :
    (world.compile registry name request response).2.clock = world.clock :=
  clock_complain _ _

theorem readings_stamp : world.stamp.2.clock.readings = world.clock.readings + 1 := by
  simp only [stamp, Clock.stamp, Clock.read]
  cases world.clock.upcoming <;> rfl

end World

/-- No effect of the program reads the stopwatch. -/
inductive Program.SparesStopwatch {σ : Type} : Program (World σ) → Prop where
  | finish (ending : Outcome Unit) : SparesStopwatch (.finish ending)
  | send (message : Message) {next : Outcome Unit → Program (World σ)} :
      (∀ result, SparesStopwatch (next result)) → SparesStopwatch (.send message next)
  | receive {next : Message → Program (World σ)} :
      (∀ message, SparesStopwatch (next message)) → SparesStopwatch (.receive next)
  | pause {next : Outcome Unit → Program (World σ)} :
      (∀ result, SparesStopwatch (next result)) → SparesStopwatch (.pause next)
  | effect {change : World σ → World σ} {next : World σ → Program (World σ)} :
      (∀ world, (change world).clock.readings = world.clock.readings) →
        (∀ world, SparesStopwatch (next world)) → SparesStopwatch (.effect change next)

theorem Script.sparesStopwatch_program {σ : Type} (call : Nat) (script : Script) :
    (script.program call : Program (World σ)).SparesStopwatch := by
  induction script with
  | nil => exact .finish _
  | cons action rest ih =>
      cases action with
      | send message =>
          refine .send message fun result => ?_
          cases result with
          | ok taken => exact ih
          | error failure => exact .finish _
      | trySend message =>
          refine .send message fun result => ?_
          cases result with
          | ok taken => exact ih
          | error failure =>
              dsimp only
              split
              · exact .effect (fun _ => rfl) fun _ => ih
              · exact .finish _
      | receive => exact .receive fun _ => ih
      | pause =>
          refine .pause fun result => ?_
          cases result with
          | ok resumed => exact ih
          | error failure => exact .finish _
      | raise failure => exact .finish _

namespace Middleware

variable {S σ : Type} {middleware : Middleware σ} {server : Server S (World σ)}

/-- Neither the server nor the sink reads the stopwatch. -/
structure AloneAtStopwatch (middleware : Middleware σ) (server : Server S (World σ)) : Prop where
  /-- Noting a message does not. -/
  noteSent : ∀ message answer world,
    (server.noteSent message answer world).clock.readings = world.clock.readings
  /-- Noting a message that was asked for does not. -/
  noteReceived : ∀ message world,
    (server.noteReceived message world).clock.readings = world.clock.readings
  /-- The sink does not. -/
  sink : ∀ severity record world,
    (middleware.sink severity record world).2.clock.readings = world.clock.readings

namespace AloneAtStopwatch

theorem record (alone : middleware.AloneAtStopwatch server) (exchange : Exchange)
    (world : World σ) :
    (middleware.record exchange world).2.clock.readings = world.clock.readings := by
  rw [Middleware.record]
  split
  · rfl
  · have kept := world.clock_compile middleware.registry middleware.formatName exchange.request
      (some exchange.response)
    split
    · next failure later compiled => rw [← kept, compiled]
    · next made later compiled => rw [alone.sink, ← kept, compiled]

theorem complete (alone : middleware.AloneAtStopwatch server) (exchange : Exchange)
    (world : World σ) :
    (middleware.complete exchange world).2.clock.readings = world.clock.readings := by
  have kept := alone.record exchange world
  rw [Middleware.complete]
  split
  · rfl
  · cases recorded : middleware.record exchange world with
    | mk outcome later =>
        rw [recorded] at kept
        cases outcome with
        | ok made => exact kept
        | error failure =>
            dsimp only
            split <;> exact kept

theorem conclude (alone : middleware.AloneAtStopwatch server) (exchange : Exchange)
    (ending : Outcome Unit) (world : World σ) :
    (middleware.conclude exchange ending world).2.clock.readings = world.clock.readings := by
  have reported : (middleware.logFailure exchange.request ending world).clock = world.clock := by
    unfold logFailure
    split
    · rfl
    · split <;> rfl
  have completed := alone.complete exchange (middleware.logFailure exchange.request ending world)
  rw [reported] at completed
  rw [Middleware.conclude]
  split <;> next same => rwa [same] at completed

theorem handOn (alone : middleware.AloneAtStopwatch server) (exchange : Exchange)
    (message : Message) (known : S) (world : World σ) :
    (middleware.handOn server exchange message known world).world.clock.readings =
      world.clock.readings := by
  rw [Middleware.handOn]
  dsimp only
  split
  · exact alone.noteSent _ _ _
  · split
    · rw [alone.complete, alone.noteSent]
    · exact alone.noteSent _ _ _

/-- A message takes a reading if it is a head and the exchange waits for one. -/
theorem passage (alone : middleware.AloneAtStopwatch server) (exchange : Exchange)
    (message : Message) (known : S) (world : World σ) :
    (middleware.passage server exchange message known world).world.clock.readings =
      world.clock.readings + if message.isHead && exchange.stage = .arrived then 1 else 0 := by
  rw [Middleware.passage]
  split
  · next untyped =>
      have no_head : message.isHead = false := by
        simp [Message.isHead, Option.isNone_iff_eq_none.mp untyped]
      simp [no_head]
  · split
    · next head =>
        have stamped : (stampHead exchange message world).2.clock.readings =
            world.clock.readings + 1 := world.readings_stamp
        dsimp only
        split
        · exact stamped
        · rw [alone.handOn, stamped]
    · exact alone.handOn exchange message known world

/-- Past the arrival no message takes a reading. -/
theorem guardCourse_of_stage_ne (alone : middleware.AloneAtStopwatch server)
    {program : Program (World σ)} (spares : program.SparesStopwatch) {exchange : Exchange}
    (gone : exchange.stage ≠ .arrived) (known : S) (world : World σ) :
    (middleware.guardCourse server program exchange known world).world.clock.readings =
      world.clock.readings := by
  induction spares generalizing exchange known world with
  | finish ending => exact alone.conclude exchange ending world
  | send message goes ih =>
      have kept := alone.passage exchange message known world
      have still_gone : (middleware.passage server exchange message known world).exchange.stage ≠
          .arrived := by
        rcases middleware.passage_advances server exchange message known world with
          ⟨same, -⟩ | ⟨-, finished, -⟩
        · rw [same, Ne, Exchange.afterSend_stage_eq_arrived_iff]
          exact fun waits => gone waits.1
        · rw [finished]
          decide
      exact (ih _ still_gone _ _).trans (by simpa [gone] using kept)
  | receive goes ih => exact (ih _ gone _ _).trans (alone.noteReceived _ world)
  | pause goes ih => exact ih _ gone _ _
  | effect keeps goes ih => exact (ih _ gone _ _).trans (keeps world)

/-- The first head takes the only reading of the run. -/
theorem guardCourse_of_isHead (alone : middleware.AloneAtStopwatch server) {message : Message}
    {next : Outcome Unit → Program (World σ)} (goes : ∀ result, (next result).SparesStopwatch)
    {exchange : Exchange} (waits : exchange.stage = .arrived) (head : message.isHead = true)
    (known : S) (world : World σ)
    (gone : (middleware.passage server exchange message known world).exchange.stage ≠ .arrived) :
    (middleware.guardCourse server (.send message next) exchange known world).world.clock.readings =
      world.clock.readings + 1 := by
  have reads := alone.passage exchange message known world
  simp only [head, waits, decide_true, Bool.and_self, ↓reduceIte] at reads
  exact (alone.guardCourse_of_stage_ne (goes _) gone _ _).trans reads

/-- From the arrival on one reading is taken if a head is sent before the exchange is finished, and
otherwise none. -/
theorem guardCourse (alone : middleware.AloneAtStopwatch server) {program : Program (World σ)}
    (spares : program.SparesStopwatch) {exchange : Exchange} (waits : exchange.stage = .arrived)
    (known : S) (world : World σ)
    (readable : ∀ first ∈ (Exchange.headsOf
      (middleware.openSends server program exchange known world)).head?,
      first.1.isReadable = true) :
    (middleware.guardCourse server program exchange known world).world.clock.readings =
      world.clock.readings + min 1 (Exchange.headsOf
        (middleware.openSends server program exchange known world)).length := by
  induction spares generalizing exchange known world with
  | finish ending => exact alone.conclude exchange ending world
  | @send message next goes ih =>
      let passed := middleware.passage server exchange message known world
      have reads : passed.world.clock.readings = _ := alone.passage exchange message known world
      rcases middleware.passage_advances server exchange message known world with
        ⟨same, -, -⟩ | ⟨last, finished, -⟩
      · have ready : passed.exchange = exchange.afterSend message world.stamp.1 := same
        have open_still : passed.exchange.stage ≠ .finished := by
          rw [ready]
          exact Exchange.afterSend_unfinished (by simp [waits]) message world.stamp.1
        rw [middleware.openSends_of_open server open_still next] at readable ⊢
        cases head : message.isHead with
        | false =>
            have waits_still : passed.exchange.stage = .arrived := by
              rw [ready, Exchange.afterSend_stage_eq_arrived_iff]
              exact ⟨waits, by simp [head]⟩
            rw [Exchange.headsOf_of_not_isHead head] at readable ⊢
            simp only [head, Bool.false_and, Bool.false_eq_true, ↓reduceIte, Nat.add_zero] at reads
            exact reads ▸ ih _ waits_still _ _ readable
        | true =>
            rw [Exchange.headsOf_of_isHead head] at readable ⊢
            have gone : passed.exchange.stage ≠ .arrived := by
              rw [ready]
              exact exchange.afterSend_stage_ne_arrived head (readable _ rfl) _
            rw [alone.guardCourse_of_isHead goes waits head known world gone, List.length_cons,
              Nat.min_eq_left (Nat.le_add_left 1 _)]
      · -- The exchange is finished by a message that is no head.
        have no_head : message.isHead = false := Message.isHead_of_isFinalBody last
        have closed : passed.exchange.stage = .finished := finished
        have gone : passed.exchange.stage ≠ .arrived := by simp [closed]
        rw [middleware.openSends_of_closed server closed next]
        simp only [no_head, Bool.false_and, Bool.false_eq_true, ↓reduceIte] at reads
        exact (alone.guardCourse_of_stage_ne (goes _) gone _ _).trans reads
  | receive goes ih =>
      refine (ih _ waits _ _ readable).trans ?_
      rw [alone.noteReceived]
      rfl
  | pause goes ih => exact ih _ waits _ _ readable
  | effect keeps goes ih =>
      refine (ih _ waits _ _ readable).trans ?_
      rw [keeps]
      rfl

end AloneAtStopwatch

end Middleware

/-- What the sink is handed. -/
def Incident.emitted? {σ : Type} : Incident σ → Option (Severity × Record)
  | emitted severity record => some (severity, record)
  | _ => none

/-- What the sink is handed in a course, in order. -/
def Course.emitted {S σ : Type} (course : Course S σ) : List (Severity × Record) :=
  course.incidents.filterMap Incident.emitted?

namespace Middleware

variable {S σ : Type} {middleware : Middleware σ}

theorem CompletesAt.emitted {incidents front signal : List (Incident σ)} {exchange : Exchange}
    {present : World σ} {after : List (Incident σ)}
    (completes : middleware.CompletesAt incidents front signal exchange present after) :
    incidents.filterMap Incident.emitted? =
      (middleware.emission exchange present).filterMap Incident.emitted? := by
  have only_completions : incidents.filterMap Incident.emitted? =
      (incidents.filter Incident.isCompletion).filterMap Incident.emitted? := by
    rw [List.filterMap_filter]
    refine List.filterMap_congr fun incident _ => ?_
    cases incident <;> rfl
  rw [only_completions, completes.filter_isCompletion, List.filterMap_cons_none rfl]

/-- What shows of handing a record to the sink depends on the world through the record alone. -/
theorem emission_congr {exchange : Exchange} {world other : World σ}
    (same : (world.compile middleware.registry middleware.formatName exchange.request
        (some exchange.response)).1 =
      (other.compile middleware.registry middleware.formatName exchange.request
        (some exchange.response)).1) :
    middleware.emission exchange world = middleware.emission exchange other := by
  simp only [emission, draft]
  cases Severity.ofStatus exchange.response.status with
  | error fault => rfl
  | ok severity =>
      generalize world.compile middleware.registry middleware.formatName exchange.request
        (some exchange.response) = here at same
      generalize other.compile middleware.registry middleware.formatName exchange.request
        (some exchange.response) = there at same
      obtain ⟨outcome, later⟩ := here
      obtain ⟨outcome', later'⟩ := there
      obtain rfl : outcome = outcome' := same
      cases outcome <;> rfl

/-- What a call depends on besides the middleware and the scope. -/
structure Occasion (S σ : Type) where
  /-- The app. -/
  app : App (World σ)
  /-- The server. -/
  server : Server S (World σ)
  /-- What the server knows at the beginning. -/
  known : S
  /-- The world at the beginning. -/
  world : World σ

namespace Occasion

/-- The course of the call. -/
def course (occasion : Occasion S σ) (middleware : Middleware σ) (scope : Scope) : Course S σ :=
  middleware.course occasion.server occasion.app scope occasion.known occasion.world

/-- The exchange of a request at its arrival. -/
def arrival (occasion : Occasion S σ) (request : Request) : Exchange :=
  .begin (request.arrived occasion.world.stamp.1 request.address)

/-- The heads that the app sends before the exchange is finished, each with the stamp that the clock
has for it. -/
def heads (occasion : Occasion S σ) (middleware : Middleware σ) (scope : Scope) :
    List (Message × Stamp) :=
  match Request.ofScope scope middleware.trustProxy with
  | .error _ => []
  | .ok request =>
      Exchange.headsOf (middleware.openSends occasion.server (occasion.app scope)
        (occasion.arrival request) occasion.known occasion.world.stamp.2)

variable {scope : Scope} {request : Request} (occasion : Occasion S σ)

theorem course_of_http (http : scope.find? "type" = some (.str "http"))
    (built : Request.ofScope scope middleware.trustProxy = .ok request) :
    occasion.course middleware scope =
      middleware.guardCourse occasion.server (occasion.app scope) (occasion.arrival request)
        occasion.known occasion.world.stamp.2 :=
  middleware.course_of_http occasion.server occasion.app http built occasion.known occasion.world

/-- The exchange is finished as the first head has left it, and the heads are those sent before. -/
theorem exists_completesAt (http : scope.find? "type" = some (.str "http"))
    (built : Request.ofScope scope middleware.trustProxy = .ok request)
    (readable : ∀ first ∈ (occasion.heads middleware scope).head?, first.1.isReadable = true) :
    ∃ front signal present after,
      middleware.CompletesAt (occasion.course middleware scope).incidents front signal
        ((occasion.arrival request).afterFirst (occasion.heads middleware scope).head?) present
        after ∧
      (Incident.sentIn front).filter Message.isHead =
        (occasion.heads middleware scope).map Prod.fst := by
  have waits : (occasion.arrival request).stage = .arrived := rfl
  have unfinished : (occasion.arrival request).stage ≠ .finished := Stage.noConfusion
  obtain ⟨front, signal, present, after, completes, sent⟩ := middleware.guardCourse_reaches
    occasion.server (occasion.app scope) unfinished occasion.known occasion.world.stamp.2
  simp only [heads, built] at readable ⊢
  rw [Exchange.afterAll_eq_afterFirst waits _ readable] at completes
  refine ⟨front, signal, present, after, ?_, ?_⟩
  · rwa [occasion.course_of_http http built]
  · rw [sent, List.filter_map]
    rfl

/-- The stopwatch is read once for the arrival and once for the first head. -/
theorem readings_course (http : scope.find? "type" = some (.str "http"))
    (built : Request.ofScope scope middleware.trustProxy = .ok request)
    (readable : ∀ first ∈ (occasion.heads middleware scope).head?, first.1.isReadable = true)
    (alone : middleware.AloneAtStopwatch occasion.server)
    (spares : (occasion.app scope).SparesStopwatch) :
    (occasion.course middleware scope).world.clock.readings =
      occasion.world.clock.readings + 1 + min 1 (occasion.heads middleware scope).length := by
  simp only [heads, built] at readable ⊢
  rw [occasion.course_of_http http built, ← occasion.world.readings_stamp]
  exact alone.guardCourse spares rfl _ _ readable

theorem emitted_of_refused (http : scope.find? "type" = some (.str "http")) {fault : Fault}
    (refused : Request.ofScope scope middleware.trustProxy = .error fault) :
    (occasion.course middleware scope).emitted = [] := by
  simp [course, Middleware.course, http, Value.isText, refused, Course.emitted]

end Occasion

/-- The record of a request is fixed by its arrival and the first head of the response.  Two calls
with one scope and the same arrival stamp, whose apps, servers and worlds may differ otherwise, emit
the same severities and records if the same head comes first in both, with the same stamp, and can
be read, or none comes at all before the exchange is finished; the format is any of built-in
extractors without `date`.  The heads that count are those before the finish, and the middleware
reads the stopwatch for the arrival and for the first of them only. -/
theorem record_fixed_by_first_head {S σ : Type} {users : UserReader} {plan : Registry.Plan}
    {fresh : Registry σ} (created : Registry.create users plan = .ok fresh)
    (history : List (Registration σ)) {middleware : Middleware σ}
    (grown : middleware.registry = fresh.after history) {format : Format}
    (kept : (middleware.formatName, format) ∈ middleware.registry.formats)
    (builtin : format.IsBuiltin) (undated : format.IsUndated) {scope : Scope}
    (http : scope.find? "type" = some (.str "http")) (left right : Occasion S σ)
    (arrival : left.world.stamp.1 = right.world.stamp.1)
    (first : (left.heads middleware scope).head? = (right.heads middleware scope).head?)
    (readable : ∀ head ∈ (left.heads middleware scope).head?, head.1.isReadable = true) :
    (left.course middleware scope).emitted = (right.course middleware scope).emitted ∧
      ∀ occasion ∈ [left, right], ∀ request,
        Request.ofScope scope middleware.trustProxy = .ok request →
        (∃ front signal exchange present after,
          middleware.CompletesAt (occasion.course middleware scope).incidents front signal exchange
            present after ∧
          (Incident.sentIn front).filter Message.isHead =
            (occasion.heads middleware scope).map Prod.fst) ∧
        (middleware.AloneAtStopwatch occasion.server → (occasion.app scope).SparesStopwatch →
          (occasion.course middleware scope).world.clock.readings =
            occasion.world.clock.readings + 1 +
              min 1 (occasion.heads middleware scope).length) := by
  have readable_both : ∀ occasion ∈ [left, right],
      ∀ head ∈ (occasion.heads middleware scope).head?, head.1.isReadable = true := by
    simp only [List.forall_mem_cons, ← first]
    exact ⟨readable, readable, by simp⟩
  constructor
  · cases built : Request.ofScope scope middleware.trustProxy with
    | error fault =>
        rw [left.emitted_of_refused http built, right.emitted_of_refused http built]
    | ok request =>
        obtain ⟨_, _, present, _, left_completes, -⟩ :=
          left.exists_completesAt http built readable
        obtain ⟨_, _, present', _, right_completes, -⟩ :=
          right.exists_completesAt http built (readable_both right (by simp))
        have same_exchange :
            (left.arrival request).afterFirst (left.heads middleware scope).head? =
              (right.arrival request).afterFirst (right.heads middleware scope).head? := by
          rw [Occasion.arrival, Occasion.arrival, arrival, first]
        rw [Course.emitted, Course.emitted, left_completes.emitted, right_completes.emitted,
          same_exchange]
        refine congrArg _ (emission_congr ?_)
        rw [grown] at kept ⊢
        exact Registry.outcome_compile_of_isUndated created history kept builtin undated _ _ _ _ _ _
  · intro occasion within request built
    have readable_here := readable_both occasion within
    obtain ⟨front, signal, present, after, completes, sent⟩ :=
      occasion.exists_completesAt http built readable_here
    exact ⟨⟨front, signal, _, present, after, completes, sent⟩,
      occasion.readings_course http built readable_here⟩

/-- A server that refuses the head, a second head, a body that breaks off and a failure of the app
leave the record as a plain run makes it. -/
theorem record_fixed_by_first_head_of_broken_body :
    let texts : List Value := [.str "status", .str "response-time", .str "res[x]"]
    let head : Message := [("type", .str "http.response.start"), ("status", .int 204),
      ("headers", .list [.tuple [.bytes [120], .bytes [49]]])]
    let second : Message := [("type", .str "http.response.start"), ("status", .int 500)]
    let part : Message := [("type", .str "http.response.body"), ("more_body", .bool true)]
    let last : Message := [("type", .str "http.response.body")]
    let registry : Registry Unit := ⟨Extractor.builtins Credentials.userName,
      [("brief", [("status", ⟨"status", "status", []⟩),
        ("response-time", ⟨"response-time", "response-time", []⟩),
        ("res", ⟨"res[x]", "res", ["x"]⟩)])]⟩
    let middleware : Middleware Unit :=
      ⟨registry, "brief", false, true, .keeping "kept", "requests"⟩
    let scope : Scope := [("type", .str "http")]
    let start : World Unit := World.start ⟨0⟩ () []
    let left : Occasion Nat Unit := ⟨fun _ => Script.program 0 [.send head, .send last],
      .refusing 0 [] (.saying .system "gone"), 0, { start with clock := ⟨⟨0⟩, [1, 3], 0, 0⟩ }⟩
    let right : Occasion Nat Unit := ⟨fun _ => Script.program 1 [.trySend head, .trySend second,
        .send part, .raise (.saying .runtime "broken")],
      .refusing 1 [0] (.saying .system "gone"), 0, { start with clock := ⟨⟨0⟩, [1, 3, 7], 0, 0⟩ }⟩
    Registry.create Credentials.userName [(.str "brief", .list texts)] = .ok registry ∧
      (left.course middleware scope).emitted = (right.course middleware scope).emitted ∧
      (left.course middleware scope).emitted.length = 1 ∧
      (right.course middleware scope).world.clock.readings = 2 := by
  intro texts head second part last registry middleware scope start left right
  have created : Registry.create Credentials.userName [(.str "brief", .list texts)] =
    .ok registry := rfl
  have left_heads : left.heads middleware scope = [(head, ⟨3, ⟨0⟩⟩)] := rfl
  have right_heads : right.heads middleware scope = [(head, ⟨3, ⟨0⟩⟩), (second, ⟨7, ⟨0⟩⟩)] := rfl
  obtain ⟨request, built⟩ : ∃ request, Request.ofScope scope middleware.trustProxy = .ok request :=
    ⟨_, rfl⟩
  have readable : ∀ first ∈ (left.heads middleware scope).head?, first.1.isReadable = true := by
    rw [left_heads]
    intro first found
    cases found
    rfl
  have alone : middleware.AloneAtStopwatch right.server := by
    refine ⟨fun message answer world => ?_, fun _ _ => rfl, fun _ _ _ => rfl⟩
    show (if message.type?.isNone then world else _).clock.readings = _
    split
    · rfl
    · cases answer <;> rfl
  obtain ⟨same, each⟩ := record_fixed_by_first_head created [] (rfl : middleware.registry = _)
    (List.mem_cons_self : ("brief", _) ∈ middleware.registry.formats) (by decide) (by decide)
    (rfl : scope.find? "type" = some (.str "http")) left right rfl
    (by rw [left_heads, right_heads]; rfl) readable
  have readings := (each right (by simp) request built).2 alone (Script.sparesStopwatch_program 1 _)
  refine ⟨created, same, rfl, ?_⟩
  rw [readings, right_heads]
  rfl

end Middleware
end RequestLog
