import RequestLog.Demo
import RequestLog.Proofs.Exchange.Address
import RequestLog.Proofs.Middleware.FailureReport

/-!
# The greeting of the front page

The route of the front page logs the address of its client, and the middleware in front of it
records one.  The route reads the request anew and trusts no proxies, whatever the middleware is set
up to do.  So the two name the same client unless the middleware trusts proxies and they report a
hop: then the record has the hop, and the line has the peer.
-/

namespace RequestLog

/-- The two readings of one request differ by the hop that proxies report. -/
theorem Request.address_of_trust {scope : Scope} {pairs : List (Octets × Octets)}
    (listed : scope.HasPairs pairs) {wary trusting : Request}
    (untrusted : ofScope scope false = .ok wary) (trusted : ofScope scope true = .ok trusting) :
    trusting.address = ((Headers.firstHop? pairs).map Value.str).getD wary.address := by
  obtain ⟨-, -, -, peer, unreported, unstamped⟩ := ofScope_eq_ok untrusted
  obtain ⟨headers_eq, -, -, same_peer, reported, unstamped_too⟩ := ofScope_eq_ok trusted
  obtain ⟨headers, found, paired⟩ := scope.headers_of_hasPairs listed
  obtain rfl := Except.ok.inj (found.symm.trans headers_eq)
  rw [if_pos rfl, Headers.forwardedFor_of_hasPairs paired] at reported
  have no_hop : wary.reportedAddress = .null := (Except.ok.inj unreported).symm
  have peers : trusting.peerAddress = wary.peerAddress :=
    Except.ok.inj (same_peer.symm.trans peer)
  rw [address, address, ← Except.ok.inj reported, no_hop, unstamped, unstamped_too, peers]
  have filled := Headers.firstHop?_ne_empty pairs
  cases reports : Headers.firstHop? pairs with
  | none => rfl
  | some hop =>
      have something : hop ≠ "" := fun nothing => filled (reports.trans (congrArg some nothing))
      simp [Extractor.textOrNull, Value.truthy, something]

/-- One request is known by the same text with and without trust, unless a hop is reported that it
is not known by otherwise. -/
theorem Request.text_address_eq_iff {scope : Scope} {pairs : List (Octets × Octets)}
    (listed : scope.HasPairs pairs) {trustProxy : Bool} {wary other : Request}
    (untrusted : ofScope scope false = .ok wary) (read : ofScope scope trustProxy = .ok other) :
    wary.address.text = other.address.text ↔ trustProxy = false ∨ Headers.firstHop? pairs = none ∨
      Headers.firstHop? pairs = some wary.address.text := by
  cases trustProxy with
  | false =>
      rw [untrusted] at read
      simp [Except.ok.inj read]
  | true =>
      rw [address_of_trust listed untrusted read]
      cases Headers.firstHop? pairs with
      | none => simp
      | some hop => simp [Value.text, eq_comm]

namespace Demo

variable {S σ : Type} {scope : Scope} {pairs : List (Octets × Octets)}

/-- A call of the front page: a request by GET for the path of its route, with headers in octets. -/
structure CallsFrontPage (scope : Scope) (pairs : List (Octets × Octets)) : Prop where
  /-- The call is a request. -/
  http : scope.find? "type" = some (.str "http")
  /-- The method is the one that the route takes. -/
  method : scope.find? "method" = some (.str "GET")
  /-- The path below the mounting point is the one of the route. -/
  path : ∃ path, routePath scope = .ok path ∧ comparedPath path = "/"
  /-- The headers are pairs of octets. -/
  headers : ∃ raw entries, scope.find? "headers" = some raw ∧ raw.items? = some entries ∧
    Headers.ArePairs entries pairs

namespace CallsFrontPage

theorem hasPairs (calls : CallsFrontPage scope pairs) : scope.HasPairs pairs := by
  obtain ⟨raw, entries, given, items, paired⟩ := calls.headers
  refine Or.inr ⟨entries, ?_, paired⟩
  rw [Scope.getD, given]
  exact items

theorem destination_eq (calls : CallsFrontPage scope pairs) :
    destination scope = .ok .frontPage := by
  obtain ⟨path, below, compared⟩ := calls.path
  obtain ⟨raw, entries, given, items, paired⟩ := calls.headers
  have headers : entry scope "headers" = .ok raw := by rw [entry, given]
  have texts : cookies scope = .ok (Headers.textsOf (Octets.ofText "cookie").latin pairs) := by
    simp only [cookies, headers, bind, Except.bind, items]
    exact Headers.allOf_of_arePairs paired
  have method : entry scope "method" = .ok (.str "GET") := by rw [entry, calls.method]
  have found : routes.lookup "/" = some Demo.frontPage := rfl
  have taken : enter scope "/" Demo.frontPage = .ok .frontPage := by
    simp only [enter, method, texts]
    rfl
  rw [destination, below]
  simp only [bind, Except.bind, compared, found, taken]

theorem app_eq (calls : CallsFrontPage scope pairs) {greeted : Request}
    (read : Request.ofScope scope false = .ok greeted) (logger : String) :
    app (σ := σ) logger scope = .effect (greet logger greeted) fun _ => frontPage.program := by
  simp only [app, calls.destination_eq, read]

end CallsFrontPage

/-- The scope of a call of the front page, of which only the path and the headers are given. -/
def scopeWith (pairs : List (Octets × Octets)) : Scope :=
  completeScope [("path", .str "/"),
    ("headers", .list (pairs.map fun pair => .tuple [.bytes pair.1, .bytes pair.2]))]

theorem callsFrontPage_scopeWith (pairs : List (Octets × Octets)) :
    CallsFrontPage (scopeWith pairs) pairs where
  http := rfl
  method := rfl
  path := ⟨"/", rfl, rfl⟩
  headers := ⟨_, _, rfl, rfl, Headers.arePairs_map pairs⟩

theorem wellTyped_scopeWith (pairs : List (Octets × Octets)) : (scopeWith pairs).WellTyped where
  headers := fun raw found => by
    cases found
    refine Or.inr ⟨_, rfl, fun entry within => ?_⟩
    obtain ⟨pair, -, rfl⟩ := List.mem_map.mp within
    exact ⟨pair.1, pair.2, rfl⟩
  rawPath := fun raw found => by cases found
  rootPath := fun raw found => by cases found
  path := fun raw found => by
    cases found
    exact ⟨_, rfl⟩
  queryString := fun raw found => by
    cases found
    exact ⟨_, rfl⟩
  httpVersion := fun raw found => by
    cases found
    exact ⟨_, rfl⟩
  client := fun raw found => by
    cases found
    exact Or.inr ⟨_, _, Or.inl rfl⟩

/-- The front page greets the client by the address that it was read with. -/
theorem message_of_greeting (world : World σ) (logger : String) (address : Value) :
    (world.entry logger 10 (.str "Hello from %s") [address] none none).message =
      .ok ("Hello from " ++ address.text) := by
  have spelled : "Hello from " ++ "%s" = "Hello from %s" := by decide
  rw [Logging.Entry.message, World.entry,
    ← Interpolation.interpolate_only "Hello from " (by decide) address, spelled]
  rfl

/-- Nothing but the head and the body of a reply is sent. -/
theorem Reply.heard_program (reply : Reply) (middleware : Middleware σ)
    (server : Server S (World σ)) (exchange : Exchange) (known : S) (world : World σ) :
    ∀ told ∈ (middleware.guardCourse server reply.program exchange known world).heard,
      told.1 = reply.head ∨ told.1 = reply.bodyMessage := by
  intro told within
  rw [Reply.program, middleware.heard_send] at within
  rcases List.mem_cons.mp within with rfl | later
  · exact Or.inl rfl
  · generalize (middleware.passage server exchange reply.head known world).result = result at later
    cases result with
    | error failure =>
        rw [middleware.heard_finish] at later
        cases later
    | ok taken =>
        rw [middleware.heard_send, middleware.heard_finish, List.mem_singleton] at later
        rw [later]
        exact Or.inr rfl

/-- The heads of a reply have a status in numbers. -/
theorem Reply.stampsJudged_program (reply : Reply) (middleware : Middleware σ)
    (server : Server S (World σ)) (exchange : Exchange) (known : S) (world : World σ) :
    (middleware.guardCourse server reply.program exchange known world).StampsJudged :=
  Course.stampsJudged_of_heard fun told within => by
    rcases reply.heard_program middleware server exchange known world told within with
      same | same <;> rw [same] <;> rfl

section Call

variable {users : UserReader} {plan : Registry.Plan} {fresh : Registry σ}
variable {outlet : Option (Middleware.Outlet σ)} {settings : Settings} {before : World σ}
variable {installed : Middleware σ}

/-- A record shows the address that its request is known by in the field of a bare token. -/
theorem find?_of_mem_emission (created : Registry.create users plan = .ok fresh)
    {middleware : Middleware σ} {history : List (Registration σ)}
    (grown : middleware.registry = fresh.after history) {format : Format}
    (stored : (middleware.formatName, format) ∈ middleware.registry.formats) {token : Token}
    (present : token ∈ format.tokens) (keyed : token.key = "remote-addr") (bare : token.args = [])
    {exchange : Exchange} {latest : World σ} {severity : Severity} {record : Record}
    (emitted : .emitted severity record ∈ middleware.emission exchange latest) :
    record.find? token.raw = some exchange.request.address := by
  obtain ⟨-, compiled⟩ := middleware.emitted_of_mem_emission emitted
  rw [grown] at compiled stored
  have builtin : (Extractor.builtins (σ := σ) users).find? "remote-addr" =
      some (.plain "remote_addr" "remote_addr" fun view => .ok view.request.address) := rfl
  exact Registry.find?_compile_plain created history builtin stored present keyed bare compiled

/-- The line of the front page and the record of its call name the same client, unless proxies are
trusted and report a hop that the client is not known by otherwise.  The line has the host of the
peer.  Every record that the sink is handed in the call has what the middleware knows the client by,
and there is one record if the failures of extractors and of the sink are ordinary. -/
theorem line_and_record_name_same_client_iff (created : Registry.create users plan = .ok fresh)
    (history : List (Registration σ))
    (made : (Middleware.create (fresh.after history) outlet settings before).1 = .ok installed)
    (later : List (Registration σ)) {format : Format}
    (stored : (installed.formatName, format) ∈ (installed.registry.after later).formats)
    {token : Token} (present : token ∈ format.tokens) (keyed : token.key = "remote-addr")
    (bare : token.args = []) (server : Server S (World σ)) (calls : CallsFrontPage scope pairs)
    (typed : scope.WellTyped) (known : S) (world : World σ) :
    let middleware := { installed with registry := installed.registry.after later }
    let logger := loggerName outlet settings
    let course := middleware.course server (app logger) scope known world
    (middleware.wrap (app logger) scope).run server known world =
        (course.outcome, course.known, course.world) ∧
      ∃ greeted arrived : Request, ∃ line : Logging.Entry,
        Request.ofScope scope false = .ok greeted ∧
        Request.ofScope scope settings.trustProxy = .ok arrived ∧
        line.logger = logger ∧ line.level = Severity.debug.level ∧
        line.message = .ok ("Hello from " ++ greeted.address.text) ∧
        course = middleware.guardCourse server frontPage.program
          (.begin (arrived.arrived world.stamp.1 arrived.address)) known
          { world.stamp.2 with logs := world.stamp.2.logs.log line } ∧
        (∃ account,
          (middleware.noting.wrap (App.noting (app logger)) scope).run server.noting known
              (world.beside []) =
            (course.outcome, course.known, course.world.beside account) ∧
          account.incidents = course.incidents.filter Incident.isDeed) ∧
        (∀ severity record, .emitted severity record ∈ course.incidents →
          record.find? token.raw = some arrived.address) ∧
        (middleware.IsTame → ∃ exchange present severity record,
          course.incidents.filter Incident.isCompletion =
            [.finished exchange present, .emitted severity record]) ∧
        (greeted.address.text = arrived.address.text ↔
          settings.trustProxy = false ∨ Headers.firstHop? pairs = none ∨
            Headers.firstHop? pairs = some greeted.address.text) := by
  intro middleware logger course
  obtain ⟨greeted, untrusted⟩ := Request.ofScope_of_wellTyped typed false
  obtain ⟨arrived, built⟩ := Request.ofScope_of_wellTyped typed settings.trustProxy
  let start := Exchange.begin (arrived.arrived world.stamp.1 arrived.address)
  let line := world.stamp.2.entry logger 10 (.str "Hello from %s") [greeted.address] none none
  have trusts : installed.trustProxy = settings.trustProxy := Middleware.trustProxy_of_create made
  have read : Request.ofScope scope middleware.trustProxy = .ok arrived := by
    rw [show middleware.trustProxy = _ from trusts, built]
  have shows : course = middleware.guardCourse server frontPage.program start known
      { world.stamp.2 with logs := world.stamp.2.logs.log line } := by
    have attended := middleware.course_of_http server (app logger) calls.http read known world
    rw [Middleware.attendCourse, calls.app_eq untrusted logger] at attended
    exact attended
  -- The request stays as it was on arrival up to where the record is made.
  obtain ⟨front, signal, exchange, latest, after, completes, request_eq, stamped⟩ :=
    middleware.course_completes server
      (fun sent exchange => exchange.request = start.request ∧
        exchange.StampedBy (sent.filter Message.isHead))
      (fun sent exchange message stamp _ holds =>
        ⟨(Middleware.request_afterSend exchange message stamp).trans holds.1,
          holds.2.afterSend message stamp⟩)
      (app logger) calls.http read known world ⟨rfl, Exchange.stampedBy_begin _⟩
  have completed := completes.filter_isCompletion
  obtain ⟨account, noted, unfolds⟩ :=
    middleware.course_unfolds server (app logger) calls.http read known world
  refine ⟨middleware.run_wrap server (app logger) scope known world, greeted, arrived, line,
    untrusted, built, rfl, rfl, message_of_greeting _ _ _, shows, ⟨account, noted, unfolds.shows⟩,
    fun severity record emitted => ?_, fun tame => ?_,
    Request.text_address_eq_iff calls.hasPairs untrusted built⟩
  · have kept := List.mem_filter.mpr ⟨emitted, (rfl : Incident.isCompletion _ = true)⟩
    rw [completed] at kept
    obtain ⟨longer, grown⟩ := Middleware.exists_history_of_create made
    have registry_eq : middleware.registry = fresh.after (longer ++ later) := by
      rw [Registry.after_append, ← grown]
    rw [find?_of_mem_emission created registry_eq stored present keyed bare (by simpa using kept),
      request_eq]
    exact congrArg some (Request.address_arrived arrived world.stamp.1)
  · have installs : middleware.IsInstalled :=
      ⟨fresh.after history, outlet, settings, before, installed, later, made, rfl⟩
    have judged : course.StampsJudged := by
      rw [shows]
      exact frontPage.stampsJudged_program middleware server start known _
    obtain ⟨severity, record, emission⟩ := installs.exists_emission tame completes stamped judged
    rw [emission] at completed
    exact ⟨exchange, latest, severity, record, completed⟩

/-- Proxies are trusted but report nothing, so line and record have the peer. -/
theorem line_and_record_name_same_client_of_no_hop :
    let fresh : Registry Unit := ⟨Extractor.builtins Credentials.userName, []⟩
    let registry := fresh.after [.format (.str "brief") (.list [.str "remote-addr"])]
    let settings := { Settings.defaults with format := .named "brief", trustProxy := true }
    let outlet : Middleware.Outlet Unit := ⟨.keeping "kept", some "requests"⟩
    let pairs := [(Octets.ofText "host", Octets.ofText "a")]
    let scope := scopeWith pairs
    ∃ middleware severity record greeted,
      (Middleware.create registry (some outlet) settings (.start ⟨0⟩ () [])).1 = .ok middleware ∧
      Request.ofScope scope false = .ok greeted ∧
      .emitted severity record ∈
        (middleware.course collector (app "requests") scope [] (.start ⟨0⟩ () [])).incidents ∧
      ∃ address, record.find? "remote-addr" = some address ∧
        greeted.address.text = address.text := by
  intro fresh registry settings outlet pairs scope
  let token : Token := ⟨"remote-addr", "remote-addr", []⟩
  let middleware : Middleware Unit :=
    ⟨registry, "brief", true, settings.handleExceptions, .keeping "kept", "requests"⟩
  have created : Registry.create Credentials.userName [] = .ok fresh := rfl
  have grown : registry = ⟨fresh.extractors, [("brief", [("remote-addr", token)])]⟩ := rfl
  have made : (Middleware.create registry (some outlet) settings (.start ⟨0⟩ () [])).1 =
      .ok middleware := rfl
  have stored : ("brief", [("remote-addr", token)]) ∈ (registry.after []).formats := by
    rw [grown]
    exact List.mem_singleton_self _
  have tame : middleware.IsTame := by
    refine ⟨?_, fun _ _ _ failure failed => by cases failed⟩
    rw [show middleware.registry = _ from grown]
    exact Registry.isTame_of_builtins Credentials.isTame_userName _
  obtain ⟨-, greeted, arrived, line, untrusted, -, -, -, -, -, -, shown, once, same⟩ :=
    line_and_record_name_same_client_iff created _ made [] stored
      (List.mem_singleton_self token) rfl rfl collector (callsFrontPage_scopeWith pairs)
      (wellTyped_scopeWith pairs) [] (.start ⟨0⟩ () [])
  obtain ⟨exchange, present, severity, record, completed⟩ := once tame
  let course := middleware.course collector (app "requests") scope [] (.start ⟨0⟩ () [])
  have emitted : .emitted severity record ∈ course.incidents.filter Incident.isCompletion := by
    rw [show course.incidents.filter _ = _ from completed]
    simp
  have within : .emitted severity record ∈ course.incidents := (List.mem_filter.mp emitted).1
  exact ⟨middleware, severity, record, greeted, made, untrusted, within, _,
    shown severity record within, same.mpr (Or.inr (Or.inl rfl))⟩

/-- Proxies are trusted and report a hop: the line has the peer and the record has the hop. -/
theorem line_and_record_name_other_clients :
    let fresh : Registry Unit := ⟨Extractor.builtins Credentials.userName, []⟩
    let registry := fresh.after [.format (.str "brief") (.list [.str "remote-addr"])]
    let settings := { Settings.defaults with format := .named "brief", trustProxy := true }
    let outlet : Middleware.Outlet Unit := ⟨.keeping "kept", some "requests"⟩
    let pairs := [(Octets.ofText "x-forwarded-for", Octets.ofText "10.1.2.3")]
    let scope := scopeWith pairs
    ∃ middleware greeted,
      (Middleware.create registry (some outlet) settings (.start ⟨0⟩ () [])).1 = .ok middleware ∧
      (∀ world : World Unit, ∃ line, greet "requests" greeted world =
        { world with logs := world.logs.log line } ∧ line.message = .ok "Hello from testclient") ∧
      (app "requests" scope : Program (World Unit)) =
        .effect (greet "requests" greeted) (fun _ => frontPage.program) ∧
      let done := (middleware.wrap (app "requests") scope).run collector [] (.start ⟨0⟩ () [])
      .recorded "kept" .info [("remote-addr", .str "10.1.2.3")] ∈
        done.2.2.logs.output.journal := by
  intro fresh registry settings outlet pairs scope
  obtain ⟨greeted, untrusted, peer⟩ : ∃ greeted, Request.ofScope scope false = .ok greeted ∧
      greeted.address = .str "testclient" := ⟨_, rfl, rfl⟩
  have calls := callsFrontPage_scopeWith pairs
  let middleware : Middleware Unit :=
    ⟨registry, "brief", true, settings.handleExceptions, .keeping "kept", "requests"⟩
  refine ⟨middleware, greeted, rfl, fun world => ⟨_, rfl, ?_⟩, calls.app_eq untrusted "requests",
    ?_⟩
  · rw [message_of_greeting, peer]
    exact congrArg _ (by decide)
  · intro done
    obtain ⟨earlier, kept⟩ : ∃ earlier, done.2.2.logs.output.journal =
        earlier ++ [.recorded "kept" .info [("remote-addr", .str "10.1.2.3")]] := ⟨_, rfl⟩
    rw [kept]
    exact List.mem_append_right earlier (List.mem_singleton_self _)

end Call

end Demo
end RequestLog
