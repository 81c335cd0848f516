import RequestLog.Proofs.Middleware.Rejection
import RequestLog.Proofs.Middleware.Sharing
import RequestLog.Proofs.Middleware.Unfolding

/-!
# Failures of the app

When the app is done, its failure is logged and the exchange finished, in this order; an exchange
that the last part of a body has finished before is left alone.  `guardCourse_ends` follows a run to
this place.  A middleware that was set up knows its format, so it makes a record of every exchange
whose status can be judged; hence a call shows one end, one report of an ordinary failure, and one
record.
-/

namespace RequestLog

/-! ## The statuses of stamped heads -/

namespace Message

/-- The status that heads leave behind is that of a head before which none could be read. -/
theorem heldStatus_cases (heads : List Message) :
    heldStatus heads = .null ∨ ∃ before head after, heads = before ++ head :: after ∧
      before.any isReadable = false ∧ heldStatus heads = head.status := by
  cases found : heads.find? isReadable with
  | some head =>
      obtain ⟨-, before, after, parts, unreadable⟩ := List.find?_eq_some_iff_append.mp found
      refine Or.inr ⟨before, head, after, parts, ?_, by rw [heldStatus, found]⟩
      exact List.any_eq_false.mpr fun earlier within => by simpa using unreadable earlier within
  | none =>
      have none_readable := List.find?_eq_none.mp found
      rcases List.eq_nil_or_concat' heads with rfl | ⟨before, head, rfl⟩
      · exact Or.inl rfl
      · have unreadable : before.any isReadable = false := List.any_eq_false.mpr
          fun earlier within => none_readable earlier (List.mem_append_left _ within)
        exact Or.inr ⟨before, head, [], rfl, unreadable,
          heldStatus_append_of_unreadable unreadable head⟩

end Message

namespace Incident

variable {σ : Type}

theorem isDeed_of_isTakenFinalBody {incident : Incident σ}
    (taken : incident.isTakenFinalBody = true) : incident.isDeed = true := by
  cases incident <;> first | rfl | cases taken

/-- A head that the app sent is told of at some place. -/
theorem exists_told_of_heads {incidents : List (Incident σ)} {before after : List Message}
    {head : Message} (sent : (sentIn incidents).filter Message.isHead = before ++ head :: after) :
    ∃ front result back, incidents = front ++ .told head result :: back ∧ head.isHead = true ∧
      (sentIn front).filter Message.isHead = before := by
  rw [sentIn, List.filter_filterMap] at sent
  obtain ⟨earlier, later, rfl, sent_earlier, sent_later⟩ := List.filterMap_eq_append_iff.mp sent
  obtain ⟨silent, incident, back, rfl, none_sent, sent_here, -⟩ :=
    List.filterMap_eq_cons_iff.mp sent_later
  obtain ⟨same, isHead⟩ := Option.filter_eq_some_iff.mp sent_here
  cases incident with
  | told message result =>
      obtain rfl := Option.some.inj same
      refine ⟨earlier ++ silent, result, back, by simp, isHead, ?_⟩
      rw [sentIn, List.filter_filterMap, List.filterMap_append, sent_earlier,
        List.filterMap_eq_nil_iff.mpr none_sent, List.append_nil]
  | _ => cases same

end Incident

/-- The status of every head that was to be stamped can be looked up: it is no list and no mapping,
but a number, say, or missing. -/
def Course.StampsJudged {S σ : Type} (course : Course S σ) : Prop :=
  ∀ front message result back, course.incidents = front ++ .told message result :: back →
    message.isHead = true → Unstamped front → message.status.unhashable? = none

theorem Course.stampsJudged_of_heard {S σ : Type} {course : Course S σ}
    (judged : ∀ told ∈ course.heard, told.1.status.unhashable? = none) : course.StampsJudged := by
  intro front message result back shows _ _
  refine judged (message, result) (List.mem_filterMap.mpr ⟨.told message result, ?_, rfl⟩)
  simp [shows]

theorem Severity.exists_ofStatus {status : Value} (judged : status.unhashable? = none) :
    ∃ severity, ofStatus status = .ok severity := by
  rw [ofStatus, judged]
  cases status.asInteger? with
  | none => exact ⟨_, rfl⟩
  | some number => exact ⟨_, rfl⟩

namespace Middleware

variable {S σ : Type} (middleware : Middleware σ) (server : Server S (World σ))

/-- The status with which an exchange is finished can be judged. -/
theorem CompletesAt.exists_ofStatus {middleware : Middleware σ} {course : Course S σ}
    {front signal after : List (Incident σ)} {exchange : Exchange} {present : World σ}
    (completes : middleware.CompletesAt course.incidents front signal exchange present after)
    (stamped : exchange.StampedBy ((Incident.sentIn front).filter Message.isHead))
    (judged : course.StampsJudged) :
    ∃ severity, Severity.ofStatus exchange.response.status = .ok severity := by
  refine Severity.exists_ofStatus ?_
  rw [stamped.status]
  rcases Message.heldStatus_cases ((Incident.sentIn front).filter Message.isHead) with
    missing | ⟨before, head, later, parts, unreadable, held⟩
  · rw [missing]
    rfl
  · rw [held]
    obtain ⟨earlier, result, back, rfl, isHead, sent⟩ := Incident.exists_told_of_heads parts
    refine judged earlier head result (back ++ signal ++ .finished exchange present ::
      (middleware.emission exchange present ++ after)) ?_ isHead
      ⟨by rw [sent, unreadable], fun incident within => ?_⟩
    · simp only [completes.split, List.append_assoc, List.cons_append]
    · exact completes.once incident (by simp [within])

/-! ## One record of every exchange -/

/-- The middleware was set up, and its registry may have grown since. -/
def IsInstalled (middleware : Middleware σ) : Prop :=
  ∃ (registry : Registry σ) (outlet : Option (Outlet σ)) (settings : Settings) (before : World σ)
    (created : Middleware σ) (later : List (Registration σ)),
    (create registry outlet settings before).1 = .ok created ∧
      middleware = { created with registry := created.registry.after later }

theorem IsInstalled.exists_format {middleware : Middleware σ} (installed : middleware.IsInstalled) :
    ∃ format, middleware.registry.formats.find? middleware.formatName = some format := by
  obtain ⟨registry, outlet, settings, before, created, later, accepted, rfl⟩ := installed
  obtain ⟨format, stored, -⟩ := resolveFormat_eq_ok (create_eq_ok accepted)
  have named : created.formatName ∈ created.registry.formats.names := List.mem_map_of_mem stored
  obtain ⟨held, found⟩ := Option.ne_none_iff_exists'.mp fun absent =>
    (Catalog.find?_eq_none_iff created.registry.formats created.formatName).mp absent named
  exact ⟨held, (Registry.extends_after created.registry later).find?_formats found⟩

/-- A middleware that was set up compiles a record of every exchange. -/
theorem IsInstalled.exists_record {middleware : Middleware σ} (installed : middleware.IsInstalled)
    (tame : middleware.IsTame) (exchange : Exchange) (present : World σ) :
    ∃ record, (present.compile middleware.registry middleware.formatName exchange.request
      (some exchange.response)).1 = .ok record := by
  obtain ⟨format, found⟩ := installed.exists_format
  let view := present.view exchange.request (some exchange.response)
  have draws : ∀ token ∈ format.tokens, ∀ state,
      Outcome.IsTame (middleware.registry.draw view token state).1 :=
    fun token _ => tame.extractors.draw view token
  obtain ⟨record, made⟩ := Registry.exists_record_of_draws draws [] present.state
  refine ⟨record, ?_⟩
  simp only [World.compile, World.settle, Registry.compile, Registry.resolve, found]
  exact made

/-- A middleware that was set up makes a record of an exchange whose statuses can be judged. -/
theorem IsInstalled.exists_emission {middleware : Middleware σ}
    (installed : middleware.IsInstalled) (tame : middleware.IsTame) {course : Course S σ}
    {front signal after : List (Incident σ)} {exchange : Exchange} {present : World σ}
    (completes : middleware.CompletesAt course.incidents front signal exchange present after)
    (stamped : exchange.StampedBy ((Incident.sentIn front).filter Message.isHead))
    (judged : course.StampsJudged) :
    ∃ severity record, middleware.emission exchange present = [.emitted severity record] := by
  obtain ⟨severity, graded⟩ := completes.exists_ofStatus stamped judged
  obtain ⟨record, compiled⟩ := installed.exists_record tame exchange present
  exact ⟨severity, record, middleware.emission_eq graded compiled⟩

/-- Where the record of an exchange is made, seen from the end of the app: what the parties did
before and after it, the world once the failure of the app is logged, and the world at the end of
the call. -/
inductive RecordPlace (early late : Account σ) (reported last : World σ) (exchange : Exchange)
    (severity : Severity) (record : Record) : Prop where
  /-- The server has taken a last part of the body before the app was done, and the sink the record;
  the report comes last. -/
  | beforeEnd (taken : ∃ incident ∈ early.incidents, incident.isTakenFinalBody = true)
      (earlier : early.incidents.filter Incident.isCompletion = [.emitted severity record])
      (nothing : late = []) (left : last = reported)
  /-- It has not; after the report the record is made and the sink takes it, and this comes last. -/
  | afterReport (untaken : ∀ incident ∈ early.incidents, incident.isTakenFinalBody = false)
      (none_earlier : early.incidents.filter Incident.isCompletion = [])
      {later handed : World σ} {result : Outcome Unit}
      (drafted : middleware.draft exchange reported = (.ok (severity, record), later))
      (taken : middleware.sink severity record later = (result, handed))
      (alone : late = [⟨.took severity record result, later, handed⟩])
      (left : last = logLoss result handed)

theorem filter_isClosing_report (ending : Outcome Unit) :
    (middleware.report ending).filter Incident.isClosing = middleware.report ending := by
  unfold report
  split
  · rfl
  · split <;> rfl

theorem filter_isCompletion_report (ending : Outcome Unit) :
    (middleware.report ending).filter Incident.isCompletion = [] :=
  List.filter_eq_nil_iff.mpr fun incident within => by
    simp [middleware.isCompletion_of_mem_report within]

namespace EndsAt

variable {middleware} {course : Course S σ} {start : Exchange} {begun : World σ}
variable {front : List (Incident σ)} {ending : Outcome Unit} {reached : Exchange}
variable {latest : World σ} {early late : Account σ}

/-- Nothing closes before the end of the app. -/
theorem filter_isClosing_front
    (ends : middleware.EndsAt course start begun front ending reached latest early late) :
    front.filter Incident.isClosing = [] :=
  List.filter_eq_nil_iff.mpr fun incident within => by simp [ends.quiet incident within]

/-- Of a whole course, the end of the app and the report are all that closes. -/
theorem filter_isClosing
    (ends : middleware.EndsAt course start begun front ending reached latest early late) :
    course.incidents.filter Incident.isClosing = .ended ending :: middleware.report ending := by
  have none_after : (middleware.completion reached
      (middleware.logFailure reached.request ending latest)).filter Incident.isClosing = [] :=
    List.filter_eq_nil_iff.mpr fun incident within => by
      simp [middleware.isClosing_of_mem_completion within]
  rw [ends.split, List.filter_append, ends.filter_isClosing_front, List.nil_append,
    List.filter_cons_of_pos rfl, List.filter_append, none_after, List.append_nil,
    middleware.filter_isClosing_report]

/-- The place of the record follows from where the course ends and what completes it. -/
theorem recordPlace
    (ends : middleware.EndsAt course start begun front ending reached latest early late)
    (unstarted : start.stage ≠ .finished) {exchange : Exchange} {present : World σ}
    {severity : Severity} {record : Record}
    (completed : course.incidents.filter Incident.isCompletion =
      [.finished exchange present, .emitted severity record]) :
    middleware.RecordPlace early late (middleware.logFailure reached.request ending latest)
      course.world exchange severity record := by
  have told : early.incidents = front.filter Incident.isDeed := ends.path.shows
  have told_completion : early.incidents.filter Incident.isCompletion =
      (front.filter Incident.isCompletion).filter Incident.isDeed := by
    simp only [told, List.filter_filter, Bool.and_comm]
  have finishes := ends.finishes
  rw [ends.split, List.filter_append, List.filter_cons_of_neg (by simp [Incident.isCompletion]),
    List.filter_append, middleware.filter_isCompletion_report, List.nil_append] at completed
  generalize middleware.completion reached (middleware.logFailure reached.request ending latest) =
    shown at completed finishes
  generalize course.world = last at finishes ⊢
  -- An exchange that is still open leaves its record to the end.
  have none_before (unfinished : reached.stage ≠ .finished) :
      front.filter Incident.isCompletion = [] :=
    List.filter_eq_nil_iff.mpr fun incident within => by
      simp [ends.untouched unfinished incident within]
  cases finishes with
  | already finished =>
      obtain ⟨incident, within, final⟩ := (ends.finished.mp finished).resolve_left unstarted
      rw [List.filter_nil, List.append_nil] at completed
      refine .beforeEnd ⟨incident, ?_, final⟩ ?_ rfl rfl
      · rw [told]
        exact List.mem_filter.mpr ⟨within, Incident.isDeed_of_isTakenFinalBody final⟩
      · rw [told_completion, completed]
        rfl
  | unmade unfinished drafted =>
      rw [none_before unfinished] at completed
      cases completed
  | handed unfinished drafted taken =>
      rw [none_before unfinished] at completed
      cases completed
      refine .afterReport (fun incident within => ?_) ?_ drafted taken rfl rfl
      · rw [told] at within
        by_contra final
        exact unfinished (ends.finished.mpr
          (Or.inr ⟨incident, List.mem_of_mem_filter within, by simpa using final⟩))
      · rw [told_completion, none_before unfinished]
        rfl

end EndsAt

/-- The failure of an app leaves the middleware as it is.  It is logged once, as an error that names
the method and the URL of the request, if it is ordinary and failures are to be logged: in the world
in which the app was done, and nothing is reported anywhere else.  And whatever the app does, one
record of the exchange is handed to the sink: after the report, or before the end of the app if the
server has taken a last part of the body by then.  This takes a middleware that was set up, with
extractors and a sink whose failures are ordinary, and heads whose statuses can be looked up. -/
theorem failure_is_reported_once {middleware : Middleware σ} (installed : middleware.IsInstalled)
    (tame : middleware.IsTame) (server : Server S (World σ)) (app : App (World σ)) {scope : Scope}
    (http : scope.find? "type" = some (.str "http")) {request : Request}
    (built : Request.ofScope scope middleware.trustProxy = .ok request) (known : S)
    (world : World σ) (judged : (middleware.course server app scope known world).StampsJudged) :
    let course := middleware.course server app scope known world
    (middleware.wrap app scope).run server known world =
        (course.outcome, course.known, course.world) ∧
      ∃ ending reports latest reported front early late exchange present severity record later,
        course.outcome = ending ∧
        (middleware.noting.wrap (App.noting app) scope).run server.noting known (world.beside []) =
          (ending, course.known,
            course.world.beside (early ++ ⟨.ended ending, latest, latest⟩ :: late)) ∧
        middleware.Path world front early latest ∧
        front.filter Incident.isClosing = [] ∧
        middleware.Reported request latest ending reports reported ∧
        course.incidents.filter Incident.isClosing = .ended ending :: reports ∧
        (∃ back, course.incidents = front ++ .ended ending :: (reports ++ back)) ∧
        course.incidents.filter Incident.isCompletion =
          [.finished exchange present, .emitted severity record] ∧
        (∀ sink, ({ middleware with sink := sink }).record exchange present =
          sink severity record later) ∧
        middleware.RecordPlace early late reported course.world exchange severity record := by
  intro course
  refine ⟨middleware.run_wrap server app scope known world, ?_⟩
  obtain ⟨before, signal, exchange, present, after, completes, stamped⟩ :=
    middleware.course_completes server
      (fun sent exchange => exchange.StampedBy (sent.filter Message.isHead))
      (fun sent exchange message stamp _ stamped => stamped.afterSend message stamp)
      app http built known world (Exchange.stampedBy_begin _)
  obtain ⟨severity, record, emission⟩ := installed.exists_emission tame completes stamped judged
  obtain ⟨later, handed⟩ := record_of_emission_eq emission
  have completed := completes.filter_isCompletion
  rw [emission] at completed
  obtain ⟨front, ending, reached, latest, early, late, ends, noted⟩ :=
    middleware.course_ends server app http built known world
  have outcome : course.outcome = ending := by
    have concluded := congrArg Prod.fst ends.concludes
    rwa [tame.conclude_outcome] at concluded
  have report := middleware.reported_logFailure reached.request ending latest
  refine ⟨ending, middleware.report ending, latest, _, front, early, late, exchange, present,
    severity, record, later, outcome, ?_, ends.path, ends.filter_isClosing_front,
    report.of_same ?_ ?_, ends.filter_isClosing, ⟨_, ends.split⟩, completed, handed,
    ends.recordPlace Stage.noConfusion completed⟩
  · rwa [show (middleware.course server app scope known world).outcome = ending from outcome]
      at noted
  · rw [ends.request]
    rfl
  · rw [ends.request]
    rfl

/-- The server takes the last part of a body and refuses the message after it, and the sink is
full. -/
theorem failure_is_reported_once_of_refusal :
    let middleware := statusOnly (.failing (.saying .runtime "full"))
    let gone : Failure := .saying .system "gone"
    let server : Server Nat (World Unit) := .refusing 0 [2] gone
    let head : Message := [("type", .str "http.response.start"), ("status", .int 404)]
    let last : Message := [("type", .str "http.response.body")]
    let app : App (World Unit) := fun _ => Script.program 0 [.send head, .send last, .send last]
    let scope : Scope := [("type", .str "http")]
    let world := World.start ⟨0⟩ () []
    let course := middleware.course server app scope 0 world
    course.outcome = .error gone ∧
      course.incidents.filter Incident.isClosing = [.ended (.error gone), .reported gone] ∧
      ∃ request latest reported early late exchange,
        Request.ofScope scope false = .ok request ∧
        (middleware.noting.wrap (App.noting app) scope).run server.noting 0 (world.beside []) =
          (.error gone, course.known,
            course.world.beside (early ++ ⟨.ended (.error gone), latest, latest⟩ :: late)) ∧
        middleware.Reported request latest (.error gone) [.reported gone] reported ∧
        middleware.RecordPlace early late reported course.world exchange .warn
          [("Status", .str "404")] := by
  intro middleware gone server head last app scope world course
  have installed : middleware.IsInstalled :=
    ⟨middleware.registry, some ⟨middleware.sink, some "requests"⟩,
      { Settings.defaults with format := .named "brief" }, world, middleware, [], rfl, rfl⟩
  have tame : middleware.IsTame := by
    refine ⟨Registry.isTame_of_builtins Credentials.isTame_userName _, ?_⟩
    intro severity record later failure failed
    cases failed
    rfl
  obtain ⟨request, built⟩ : ∃ request, Request.ofScope scope false = .ok request := ⟨_, rfl⟩
  have heard : course.heard = [(head, .ok ()), (last, .ok ()), (last, .error gone)] := rfl
  have judged : course.StampsJudged := by
    refine Course.stampsJudged_of_heard fun told within => ?_
    rw [heard] at within
    simp only [List.mem_cons, List.not_mem_nil, or_false] at within
    rcases within with rfl | rfl | rfl <;> rfl
  obtain ⟨-, ending, reports, latest, reported, front, early, late, exchange, present, severity,
    record, later, outcome, noted, -, -, report, closing, -, completed, -, place⟩ :=
    failure_is_reported_once installed tame server app rfl built 0 world judged
  obtain rfl : .error gone = ending := outcome
  have closes : course.incidents.filter Incident.isClosing =
      [.ended (.error gone), .reported gone] := rfl
  obtain ⟨-, rfl⟩ : _ ∧ [.reported gone] = reports := List.cons.inj (closes.symm.trans closing)
  have emitted : .emitted .warn [("Status", .str "404")] ∈
      course.incidents.filter Incident.isCompletion :=
    List.mem_of_getElem? (rfl : (course.incidents.filter Incident.isCompletion)[1]? = _)
  rw [show course.incidents.filter Incident.isCompletion = _ from completed] at emitted
  obtain ⟨rfl, rfl⟩ : Severity.warn = severity ∧ [("Status", .str "404")] = record := by
    simpa using emitted
  exact ⟨rfl, closes, request, latest, reported, early, late, exchange, built, noted, report, place⟩

end Middleware
end RequestLog
