import RequestLog.Proofs.Middleware.Course

/-!
# Every exchange is completed once

The middleware finishes an exchange right after the server has taken the last part of the body, and
otherwise when the app is done.  `passage_cases` says what one message can do to an exchange,
`guardCourse_completes` carries an invariant of unfinished exchanges through a whole run to the
place where the exchange is finished, and after that place nothing is finished or recorded any more.
-/

namespace RequestLog

/-- The exchange when a message of the app is handed on: a head is stamped first. -/
def Exchange.afterSend (exchange : Exchange) (message : Message) (stamp : Stamp) : Exchange :=
  if message.isHead && exchange.stage = .arrived then (exchange.stampHead stamp message).2
  else exchange

/-- The messages that the app sent, in order. -/
def Incident.sentIn {σ : Type} (incidents : List (Incident σ)) : List Message :=
  incidents.filterMap fun incident => incident.heard?.map Prod.fst

theorem Incident.sentIn_append {σ : Type} (front back : List (Incident σ)) :
    sentIn (front ++ back) = sentIn front ++ sentIn back :=
  List.filterMap_append

theorem Message.isHead_of_isFinalBody {message : Message} (last : message.isFinalBody = true) :
    message.isHead = false := by
  simp only [isFinalBody, isHead, Bool.and_eq_true] at last ⊢
  cases kind : message.type? with
  | none => rfl
  | some value =>
      cases value <;> simp_all [Value.isText]

theorem Exchange.stage_stampHead (exchange : Exchange) (stamp : Stamp) (message : Message) :
    (exchange.stampHead stamp message).2.stage = exchange.stage ∨
      (exchange.stampHead stamp message).2.stage = .headersSent := by
  rw [stampHead]
  split
  · exact Or.inr rfl
  · exact Or.inl rfl

theorem Exchange.afterSend_unfinished {exchange : Exchange}
    (unfinished : exchange.stage ≠ .finished) (message : Message) (stamp : Stamp) :
    (exchange.afterSend message stamp).stage ≠ .finished := by
  rw [afterSend]
  split
  · rcases exchange.stage_stampHead stamp message with same | sent
    · rwa [same]
    · rw [sent]
      decide
  · exact unfinished

theorem Exchange.afterSend_of_isFinalBody (exchange : Exchange) {message : Message}
    (last : message.isFinalBody = true) (stamp : Stamp) :
    exchange.afterSend message stamp = exchange := by
  simp [afterSend, Message.isHead_of_isFinalBody last]

theorem Exchange.afterSend_of_finished {exchange : Exchange} (finished : exchange.stage = .finished)
    (message : Message) (stamp : Stamp) : exchange.afterSend message stamp = exchange := by
  simp [afterSend, finished]

/-- The exchange after messages of the app, each handed on with a stamp. -/
def Exchange.afterAll (exchange : Exchange) (sends : List (Message × Stamp)) : Exchange :=
  sends.foldl (fun exchange sent => exchange.afterSend sent.1 sent.2) exchange

theorem Exchange.afterAll_induction (Invariant : List Message → Exchange → Prop)
    (keeps : ∀ sent exchange message stamp, exchange.stage ≠ .finished → Invariant sent exchange →
      Invariant (sent ++ [message]) (exchange.afterSend message stamp))
    (sends : List (Message × Stamp)) {exchange : Exchange} (unfinished : exchange.stage ≠ .finished)
    (sent : List Message) (holds : Invariant sent exchange) :
    Invariant (sent ++ sends.map Prod.fst) (exchange.afterAll sends) := by
  induction sends generalizing exchange sent with
  | nil => simpa [afterAll] using holds
  | cons next later ih =>
      obtain ⟨message, stamp⟩ := next
      have kept := keeps sent exchange message stamp unfinished holds
      have goes := ih (afterSend_unfinished unfinished message stamp) (sent ++ [message]) kept
      rwa [List.append_assoc] at goes

theorem Value.eq_str_of_isText {value : Value} {text : String} (same : value.isText text = true) :
    value = .str text := by
  cases value <;> simp_all [isText]

/-- Nothing is finished or recorded where no middleware stands in front. -/
theorem Program.isCompletion_of_mem_course {S σ : Type} (server : Server S (World σ))
    (program : Program (World σ)) (known : S) (world : World σ) :
    ∀ incident ∈ (program.course server known world).incidents, incident.isCompletion = false := by
  induction program generalizing known world with
  | finish ending =>
      intro incident within
      rw [List.mem_singleton.mp within]
      rfl
  | send message next ih =>
      intro incident within
      simp only [course, Course.incidents_since, List.cons_append, List.nil_append,
        List.mem_cons] at within
      rcases within with rfl | rfl | later
      · rfl
      · rfl
      · exact ih _ _ _ incident later
  | receive next ih => exact ih _ _ _
  | pause next ih => exact ih _ _ _
  | effect change next ih => exact ih _ _ _

namespace Middleware

variable {S σ : Type} (middleware : Middleware σ) (server : Server S (World σ))

theorem stage_complete (exchange : Exchange) (world : World σ) :
    (middleware.complete exchange world).1.2.stage = .finished := by
  by_cases finished : exchange.stage = .finished
  · rw [complete_of_finished _ finished, finished]
  · rw [complete_of_unfinished _ finished]

theorem completion_of_finished {exchange : Exchange} (finished : exchange.stage = .finished)
    (world : World σ) : middleware.completion exchange world = [] := by
  rw [completion, if_pos finished]

theorem completion_of_unfinished {exchange : Exchange} (unfinished : exchange.stage ≠ .finished)
    (world : World σ) :
    middleware.completion exchange world =
      .finished exchange world :: middleware.emission exchange world := by
  rw [completion, if_neg unfinished]

theorem isCompletion_of_mem_report {ending : Outcome Unit} {incident : Incident σ}
    (reported : incident ∈ middleware.report ending) : incident.isCompletion = false := by
  unfold report at reported
  split at reported
  · cases reported
  · split at reported
    · rw [List.mem_singleton.mp reported]
      rfl
    · cases reported

/-- What handing a message on can do: the server refuses it or takes it, and taking the last part of
the body finishes the exchange. -/
theorem handOn_cases (exchange : Exchange) (message : Message) (known : S) (world : World σ) :
    let passed := middleware.handOn server exchange message known world
    (∃ answer, passed.incidents = [.forwarded message answer] ∧ passed.result = answer ∧
        passed.exchange = exchange ∧ (answer = .ok () → message.isFinalBody = false)) ∨
      (message.isFinalBody = true ∧ ∃ present,
        passed.incidents =
          .forwarded message (.ok ()) :: middleware.completion exchange present ∧
        passed.result = (middleware.complete exchange present).1.1 ∧
        passed.exchange = (middleware.complete exchange present).1.2) := by
  simp only [handOn]
  cases (server.answer known message).1 with
  | error failure => exact Or.inl ⟨.error failure, rfl, rfl, rfl, fun taken => by cases taken⟩
  | ok taken =>
      dsimp only
      split
      · next last => exact Or.inr ⟨last, _, rfl, rfl, rfl⟩
      · next more => exact Or.inl ⟨.ok (), rfl, rfl, rfl, fun _ => Bool.eq_false_iff.mpr more⟩

/-- What one message of the app can do: it is not handed on because it cannot be read; or it is
handed on, and only the last part of the body finishes the exchange when it is taken. -/
theorem passage_cases (exchange : Exchange) (message : Message) (known : S) (world : World σ) :
    let passed := middleware.passage server exchange message known world
    let ready := exchange.afterSend message world.stamp.1
    (∃ failure, passed.incidents = [] ∧ passed.result = .error failure ∧
        passed.exchange = ready) ∨
      (∃ answer, passed.incidents = [.forwarded message answer] ∧ passed.result = answer ∧
        passed.exchange = ready ∧ (answer = .ok () → message.isFinalBody = false)) ∨
      (message.isFinalBody = true ∧ ∃ present,
        passed.incidents = .forwarded message (.ok ()) :: middleware.completion ready present ∧
        passed.result = (middleware.complete ready present).1.1 ∧
        passed.exchange = (middleware.complete ready present).1.2) := by
  simp only [passage]
  split
  · next untyped =>
      have no_head : message.isHead = false := by
        simp [Message.isHead, Option.isNone_iff_eq_none.mp untyped]
      exact Or.inl ⟨_, rfl, rfl, by simp [Exchange.afterSend, no_head]⟩
  · split
    · next head =>
        have ready_eq : exchange.afterSend message world.stamp.1 =
            (stampHead exchange message world).1.2 := by
          rw [Exchange.afterSend, if_pos head]
          rfl
        rw [ready_eq]
        cases (stampHead exchange message world).1.1 with
        | error failure => exact Or.inl ⟨failure, rfl, rfl, rfl⟩
        | ok stamped => exact Or.inr (middleware.handOn_cases server _ message known _)
    · next other =>
        rw [Exchange.afterSend, if_neg other]
        exact Or.inr (middleware.handOn_cases server exchange message known world)

/-- One message of the app either leaves the exchange as it was handed on and completes nothing, or
it is the last part of the body and finishes the exchange. -/
theorem passage_advances (exchange : Exchange) (message : Message) (known : S) (world : World σ) :
    let passed := middleware.passage server exchange message known world
    let ready := exchange.afterSend message world.stamp.1
    (passed.exchange = ready ∧ Incident.sentIn passed.incidents = [] ∧
        ∀ incident ∈ passed.incidents,
          incident.isCompletion = false ∧ incident.isTakenFinalBody = false) ∨
      (message.isFinalBody = true ∧ passed.exchange.stage = .finished ∧ ∃ present,
        passed.incidents =
          .forwarded message (.ok ()) :: middleware.completion ready present) := by
  intro passed ready
  rcases middleware.passage_cases server exchange message known world with
    ⟨failure, quiet, _, same⟩ | ⟨answer, one, _, same, more⟩ | ⟨last, present, shows, _, same⟩
  · have none_shown : passed.incidents = [] := quiet
    refine Or.inl ⟨same, ?_, ?_⟩ <;> simp [none_shown, Incident.sentIn]
  · have one_shown : passed.incidents = [.forwarded message answer] := one
    refine Or.inl ⟨same, by simp [one_shown, Incident.sentIn, Incident.heard?], ?_⟩
    intro incident within
    rw [one_shown, List.mem_singleton] at within
    subst within
    refine ⟨rfl, ?_⟩
    cases answer with
    | error failure => rfl
    | ok taken => exact more rfl
  · refine Or.inr ⟨last, ?_, present, shows⟩
    rw [show passed.exchange = _ from same, stage_complete]

/-- Behind a finished exchange nothing is finished or recorded any more. -/
theorem guardCourse_of_finished (program : Program (World σ)) {exchange : Exchange}
    (finished : exchange.stage = .finished) (known : S) (world : World σ) :
    ∀ incident ∈ (middleware.guardCourse server program exchange known world).incidents,
      incident.isCompletion = false := by
  induction program generalizing exchange known world with
  | finish ending =>
      intro incident present
      simp only [guardCourse, middleware.completion_of_finished finished, List.append_nil,
        List.mem_cons] at present
      rcases present with rfl | reported
      · rfl
      · exact middleware.isCompletion_of_mem_report reported
  | send message next ih =>
      let passed := middleware.passage server exchange message known world
      -- The exchange stays finished, and what shows of the message is no completion.
      have stays : passed.exchange.stage = .finished ∧
          ∀ incident ∈ passed.incidents, incident.isCompletion = false := by
        rcases middleware.passage_advances server exchange message known world with
          ⟨same, _, quiet⟩ | ⟨_, ends, present, shows⟩
        · refine ⟨?_, fun incident within => (quiet incident within).1⟩
          rw [show passed.exchange = _ from same, Exchange.afterSend_of_finished finished, finished]
        · refine ⟨ends, ?_⟩
          rw [show passed.incidents = _ from shows, Exchange.afterSend_of_finished finished,
            middleware.completion_of_finished finished]
          simp [Incident.isCompletion]
      intro incident present
      simp only [guardCourse, Course.incidents_since, List.append_assoc, List.mem_append,
        List.mem_singleton] at present
      rcases present with passing | rfl | later
      · exact stays.2 incident passing
      · rfl
      · exact ih _ stays.1 _ _ incident later
  | receive next ih => exact ih _ finished _ _
  | pause next ih => exact ih _ finished _ _
  | effect change next ih => exact ih _ finished _ _

/-- A course is completed at one place: between what comes before the signal, the signal, and what
comes after. -/
structure CompletesAt (incidents front signal : List (Incident σ)) (exchange : Exchange)
    (present : World σ) (after : List (Incident σ)) : Prop where
  /-- The signal comes right before the exchange is finished and its record made. -/
  split : incidents =
    front ++ signal ++ .finished exchange present :: (middleware.emission exchange present ++ after)
  /-- The exchange was not finished before. -/
  unfinished : exchange.stage ≠ .finished
  /-- Nothing else is finished or recorded. -/
  once : ∀ incident ∈ front ++ signal ++ after, incident.isCompletion = false
  /-- The server did not take the last part of the body before. -/
  first : ∀ incident ∈ front, incident.isTakenFinalBody = false
  /-- The server has just taken the last part of the body, or else the app is done. -/
  signals :
    (∃ message, message.isFinalBody = true ∧ signal = [.forwarded message (.ok ())]) ∨
      (∃ ending, signal = .ended ending :: middleware.report ending ∧ after = [])

/-- A completion stays one behind more incidents, if none of them is a completion or a part of a
body that is the last one and taken. -/
theorem CompletesAt.since {middleware : Middleware σ} {incidents front signal : List (Incident σ)}
    {exchange : Exchange} {present : World σ} {after : List (Incident σ)}
    (completes : middleware.CompletesAt incidents front signal exchange present after)
    {earlier : List (Incident σ)}
    (none_completes : ∀ incident ∈ earlier, incident.isCompletion = false)
    (none_final : ∀ incident ∈ earlier, incident.isTakenFinalBody = false) :
    middleware.CompletesAt (earlier ++ incidents) (earlier ++ front) signal exchange present
      after where
  split := by simp only [completes.split, List.append_assoc]
  unfinished := completes.unfinished
  once := by
    intro incident present
    rw [List.append_assoc, List.append_assoc, List.mem_append] at present
    rcases present with before | rest
    · exact none_completes incident before
    · exact completes.once incident (by rwa [List.append_assoc])
  first := by
    intro incident present
    rcases List.mem_append.mp present with before | rest
    · exact none_final incident before
    · exact completes.first incident rest
  signals := completes.signals

/-- The end of the app completes an unfinished exchange. -/
theorem completesAt_finish (ending : Outcome Unit) {exchange : Exchange}
    (unfinished : exchange.stage ≠ .finished) (known : S) (world : World σ) :
    middleware.CompletesAt
      (middleware.guardCourse server (.finish ending) exchange known world).incidents []
      (.ended ending :: middleware.report ending) exchange
      (middleware.logFailure exchange.request ending world) [] where
  split := by simp [guardCourse, middleware.completion_of_unfinished unfinished]
  unfinished := unfinished
  once := by
    intro incident within
    simp only [List.nil_append, List.append_nil, List.mem_cons] at within
    rcases within with rfl | reported
    · rfl
    · exact middleware.isCompletion_of_mem_report reported
  first := by simp
  signals := Or.inr ⟨ending, rfl, rfl⟩

/-- The last part of the body, once it is taken, completes an unfinished exchange. -/
theorem completesAt_last {message : Message} (last : message.isFinalBody = true)
    {exchange : Exchange} (unfinished : exchange.stage ≠ .finished) (present : World σ)
    {later : List (Incident σ)}
    (quiet : ∀ incident ∈ later, incident.isCompletion = false) :
    middleware.CompletesAt
      (.forwarded message (.ok ()) :: middleware.completion exchange present ++ later) []
      [.forwarded message (.ok ())] exchange present later where
  split := by simp [middleware.completion_of_unfinished unfinished]
  unfinished := unfinished
  once := by
    intro incident within
    simp only [List.nil_append, List.cons_append, List.mem_cons] at within
    rcases within with rfl | after
    · rfl
    · exact quiet incident after
  first := by simp
  signals := Or.inl ⟨message, last, rfl⟩

/-- The messages that a program sends while its exchange stays unfinished, each with the stamp that
the clock has for it. -/
def openSends : Program (World σ) → Exchange → S → World σ → List (Message × Stamp)
  | .finish _, _, _, _ => []
  | .send message next, exchange, known, world =>
      let passed := middleware.passage server exchange message known world
      if passed.exchange.stage = .finished then []
      else
        (message, world.stamp.1) ::
          openSends (next passed.result) passed.exchange passed.known passed.world
  | .receive next, exchange, known, world =>
      openSends (next server.offer) exchange known (server.noteReceived server.offer world)
  | .pause next, exchange, known, world => openSends (next (.ok ())) exchange known world
  | .effect change next, exchange, known, world =>
      openSends (next world) exchange known (change world)

theorem openSends_of_open {message : Message} {exchange : Exchange} {known : S} {world : World σ}
    (still_open :
      (middleware.passage server exchange message known world).exchange.stage ≠ .finished)
    (next : Outcome Unit → Program (World σ)) :
    let passed := middleware.passage server exchange message known world
    middleware.openSends server (.send message next) exchange known world =
      (message, world.stamp.1) ::
        middleware.openSends server (next passed.result) passed.exchange passed.known
          passed.world :=
  if_neg still_open

theorem openSends_of_closed {message : Message} {exchange : Exchange} {known : S} {world : World σ}
    (closed : (middleware.passage server exchange message known world).exchange.stage = .finished)
    (next : Outcome Unit → Program (World σ)) :
    middleware.openSends server (.send message next) exchange known world = [] :=
  if_pos closed

/-- Every run finishes its exchange, as the messages sent until then have left it. -/
theorem guardCourse_reaches (program : Program (World σ)) {exchange : Exchange}
    (unfinished : exchange.stage ≠ .finished) (known : S) (world : World σ) :
    let sends := middleware.openSends server program exchange known world
    ∃ front signal present after,
      middleware.CompletesAt (middleware.guardCourse server program exchange known world).incidents
        front signal (exchange.afterAll sends) present after ∧
      Incident.sentIn front = sends.map Prod.fst := by
  induction program generalizing exchange known world with
  | finish ending =>
      exact ⟨_, _, _, _, middleware.completesAt_finish server ending unfinished known world, rfl⟩
  | send message next ih =>
      let ready := exchange.afterSend message world.stamp.1
      have ready_unfinished : ready.stage ≠ .finished :=
        Exchange.afterSend_unfinished unfinished message world.stamp.1
      let passed := middleware.passage server exchange message known world
      let rest := middleware.guardCourse server (next passed.result) passed.exchange passed.known
        passed.world
      have whole : (middleware.guardCourse server (.send message next) exchange known
          world).incidents =
            passed.incidents ++ [.told message passed.result] ++ rest.incidents := rfl
      rw [whole]
      rcases middleware.passage_advances server exchange message known world with
        ⟨same, silent, quiet⟩ | ⟨last, ends, present, shows⟩
      · -- The message completes nothing, so the rest of the run does.
        have open_still : passed.exchange.stage ≠ .finished := same ▸ ready_unfinished
        have sends_eq := middleware.openSends_of_open server open_still next
        have after_eq (later : List (Message × Stamp)) :
            exchange.afterAll ((message, world.stamp.1) :: later) =
              passed.exchange.afterAll later := by
          rw [show passed.exchange = ready from same]
          rfl
        obtain ⟨front, signal, present, after, completes, sent_rest⟩ :=
          ih passed.result open_still passed.known passed.world
        have none_completes : ∀ incident ∈ passed.incidents ++ [.told message passed.result],
            incident.isCompletion = false ∧ incident.isTakenFinalBody = false := by
          intro incident within
          rcases List.mem_append.mp within with passing | told
          · exact quiet incident passing
          · rw [List.mem_singleton.mp told]
            exact ⟨rfl, rfl⟩
        simp only [sends_eq, after_eq]
        refine ⟨_, signal, present, after,
          completes.since (fun incident within => (none_completes incident within).1)
            fun incident within => (none_completes incident within).2, ?_⟩
        rw [Incident.sentIn_append, Incident.sentIn_append,
          show Incident.sentIn passed.incidents = [] from silent, sent_rest]
        rfl
      · -- The message completes the exchange, and the rest of the run completes nothing.
        have closed : passed.exchange.stage = .finished := ends
        have sends_eq := middleware.openSends_of_closed server closed next
        have quiet : ∀ incident ∈ .told message passed.result :: rest.incidents,
            incident.isCompletion = false := by
          intro incident within
          rcases List.mem_cons.mp within with rfl | later
          · rfl
          · exact middleware.guardCourse_of_finished server _ ends _ _ incident later
        have completes := middleware.completesAt_last last ready_unfinished present quiet
        rw [show ready = exchange from exchange.afterSend_of_isFinalBody last world.stamp.1]
          at completes
        rw [List.append_assoc, show passed.incidents = _ from shows,
          exchange.afterSend_of_isFinalBody last world.stamp.1]
        simp only [sends_eq]
        exact ⟨_, _, _, _, completes, rfl⟩
  | receive next ih => exact ih _ unfinished _ _
  | pause next ih => exact ih _ unfinished _ _
  | effect change next ih => exact ih _ unfinished _ _

/-- Whatever the messages of the app keep true of an unfinished exchange is true where it is
finished, and every run finishes it. -/
theorem guardCourse_completes (Invariant : List Message → Exchange → Prop)
    (keeps : ∀ sent exchange message stamp, exchange.stage ≠ .finished → Invariant sent exchange →
      Invariant (sent ++ [message]) (exchange.afterSend message stamp))
    (program : Program (World σ)) {exchange : Exchange} (unfinished : exchange.stage ≠ .finished)
    (sent : List Message) (holds : Invariant sent exchange) (known : S) (world : World σ) :
    ∃ front signal reached present after,
      middleware.CompletesAt (middleware.guardCourse server program exchange known world).incidents
        front signal reached present after ∧
      Invariant (sent ++ Incident.sentIn front) reached := by
  obtain ⟨front, signal, present, after, completes, sent_eq⟩ :=
    middleware.guardCourse_reaches server program unfinished known world
  refine ⟨front, signal, _, present, after, completes, ?_⟩
  rw [sent_eq]
  exact Exchange.afterAll_induction Invariant keeps _ unfinished sent holds

/-- The same for a request from its arrival on. -/
theorem course_completes (Invariant : List Message → Exchange → Prop)
    (keeps : ∀ sent exchange message stamp, exchange.stage ≠ .finished → Invariant sent exchange →
      Invariant (sent ++ [message]) (exchange.afterSend message stamp))
    (app : App (World σ)) {scope : Scope} (http : scope.find? "type" = some (.str "http"))
    {request : Request} (built : Request.ofScope scope middleware.trustProxy = .ok request)
    (known : S) (world : World σ)
    (holds : Invariant [] (.begin (request.arrived world.stamp.1 request.address))) :
    ∃ front signal reached present after,
      middleware.CompletesAt (middleware.course server app scope known world).incidents
        front signal reached present after ∧
      Invariant (Incident.sentIn front) reached := by
  rw [middleware.course_of_http server app http built known world, attendCourse]
  have begun : (Exchange.begin (request.arrived world.stamp.1 request.address)).stage ≠
      .finished := Stage.noConfusion
  simpa only [List.nil_append] using middleware.guardCourse_completes server Invariant keeps
    (app scope) begun [] holds known world.stamp.2

/-- If the severity is found and the record compiled, the sink is handed both. -/
theorem emission_eq {exchange : Exchange} {world : World σ} {severity : Severity} {record : Record}
    (judged : Severity.ofStatus exchange.response.status = .ok severity)
    (compiled : (world.compile middleware.registry middleware.formatName exchange.request
      (some exchange.response)).1 = .ok record) :
    middleware.emission exchange world = [.emitted severity record] := by
  have drafted : (middleware.draft exchange world).1 = .ok (severity, record) := by
    simp only [draft, judged]
    cases outcome : world.compile middleware.registry middleware.formatName exchange.request
        (some exchange.response) with
    | mk result later =>
        rw [outcome] at compiled
        subst compiled
        rfl
  simp only [emission, drafted]

/-- What is handed to the sink is judged by the status and compiled from the exchange. -/
theorem emitted_of_mem_emission {exchange : Exchange} {world : World σ} {severity : Severity}
    {record : Record} (emitted : .emitted severity record ∈ middleware.emission exchange world) :
    Severity.ofStatus exchange.response.status = .ok severity ∧
      (middleware.registry.compile middleware.formatName
        (world.view exchange.request (some exchange.response)) world.state).outcome =
          .ok record := by
  simp only [emission, draft] at emitted
  cases judged : Severity.ofStatus exchange.response.status with
  | error fault => simp [judged] at emitted
  | ok level =>
      cases compiled : world.compile middleware.registry middleware.formatName exchange.request
          (some exchange.response) with
      | mk outcome later =>
          simp only [judged, compiled] at emitted
          cases outcome with
          | error failure => simp at emitted
          | ok made =>
              simp only [List.mem_singleton, Incident.emitted.injEq] at emitted
              obtain ⟨rfl, rfl⟩ := emitted
              exact ⟨rfl, congrArg Prod.fst compiled⟩

theorem isCompletion_of_mem_emission {exchange : Exchange} {world : World σ} {incident : Incident σ}
    (within : incident ∈ middleware.emission exchange world) : incident.isCompletion = true := by
  unfold emission at within
  split at within
  · cases within
  · rw [List.mem_singleton.mp within]
    rfl

/-- Of a whole course, the completion is one step to finished and what the sink is handed there. -/
theorem CompletesAt.filter_isCompletion {middleware : Middleware σ}
    {incidents front signal : List (Incident σ)} {exchange : Exchange} {present : World σ}
    {after : List (Incident σ)}
    (completes : middleware.CompletesAt incidents front signal exchange present after) :
    incidents.filter Incident.isCompletion =
      .finished exchange present :: middleware.emission exchange present := by
  have quiet : ∀ part : List (Incident σ),
      (∀ incident ∈ part, incident ∈ front ++ signal ++ after) →
      part.filter Incident.isCompletion = [] := by
    intro part included
    refine List.filter_eq_nil_iff.mpr fun incident within => ?_
    rw [completes.once incident (included incident within)]
    exact Bool.false_ne_true
  have all_emitted : (middleware.emission exchange present).filter Incident.isCompletion =
      middleware.emission exchange present :=
    List.filter_eq_self.mpr fun incident => middleware.isCompletion_of_mem_emission
  rw [completes.split, List.filter_append, quiet (front ++ signal) fun incident within =>
    List.mem_append_left _ within, List.nil_append, List.filter_cons_of_pos rfl, List.filter_append,
    quiet after fun incident within => List.mem_append_right _ within, all_emitted, List.append_nil]

/-- What the sink is handed in a course comes from finishing an exchange. -/
theorem exists_emission_of_mem_course {app : App (World σ)} {scope : Scope} {known : S}
    {world : World σ} {severity : Severity} {record : Record}
    (emitted : .emitted severity record ∈
      (middleware.course server app scope known world).incidents) :
    ∃ exchange present, .emitted severity record ∈ middleware.emission exchange present := by
  cases kind : scope.find? "type" with
  | none => simp [course, kind] at emitted
  | some type =>
      cases http : type.isText "http" with
      | false =>
          simp only [course, kind, http, Bool.not_false, ↓reduceIte] at emitted
          cases (app scope).isCompletion_of_mem_course server known world _ emitted
      | true =>
          have called : scope.find? "type" = some (.str "http") := by
            rw [kind, Value.eq_str_of_isText http]
          cases built : Request.ofScope scope middleware.trustProxy with
          | error fault => simp [course, kind, http, built] at emitted
          | ok request =>
              obtain ⟨front, signal, exchange, present, after, completes, -⟩ :=
                middleware.course_completes server (fun _ _ => True) (fun _ _ _ _ _ _ => trivial)
                  app called built known world trivial
              have kept := List.mem_filter.mpr ⟨emitted, (rfl : Incident.isCompletion _ = true)⟩
              rw [completes.filter_isCompletion] at kept
              exact ⟨exchange, present, by simpa using kept⟩

end Middleware
end RequestLog
