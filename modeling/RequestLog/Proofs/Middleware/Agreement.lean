import RequestLog.Proofs.Middleware.Stamping
import RequestLog.Proofs.Registry.Fields

/-!
# Severity and status of a record

The severity of a record is that of the status that the heads leave behind, whether or not one of
them could be read.  The status field shows that status only once a head could be read.  So the two
agree exactly if a head could be read or if there is nothing to disagree about.
-/

namespace RequestLog

/-- What a field shows of a status. -/
def Value.statusText (status : Value) : Value :=
  match status with
  | .null => .null
  | status => .str status.text

/-- A record of an exchange with the status agrees with its severity: a status field that is empty
means the severity of a missing status; any other one shows the status, and the severity is that of
the status. -/
def Severity.AgreesWith (severity : Severity) (status field : Value) : Prop :=
  (field = .null → Severity.ofStatus .null = .ok severity) ∧
    (field ≠ .null → field = .str status.text ∧ Severity.ofStatus status = .ok severity)

theorem Severity.ofStatus_null : ofStatus .null = .ok .error := rfl

/-- A status agrees with the severity that is found for it. -/
theorem Severity.agreesWith_statusText {severity : Severity} {status : Value}
    (judged : ofStatus status = .ok severity) : severity.AgreesWith status status.statusText := by
  cases status with
  | null => exact ⟨fun _ => judged, fun shown => absurd rfl shown⟩
  | _ =>
      refine ⟨fun hidden => ?_, fun _ => ⟨rfl, judged⟩⟩
      cases hidden

/-- An empty field agrees with the severity of a missing status alone. -/
theorem Severity.agreesWith_null_iff (severity : Severity) (status : Value) :
    severity.AgreesWith status .null ↔ severity = .error := by
  rw [AgreesWith, ofStatus_null]
  constructor
  · intro agrees
    exact (Except.ok.inj (agrees.1 rfl)).symm
  · rintro rfl
    exact ⟨fun _ => rfl, fun shown => absurd rfl shown⟩

/-- A field that shows the status under some condition agrees under this condition, and otherwise
only by chance. -/
theorem Severity.agreesWith_shown_iff {severity : Severity} {status : Value}
    (judged : ofStatus status = .ok severity) (shows : Prop) [Decidable shows] :
    severity.AgreesWith status (if shows then status.statusText else .null) ↔
      shows ∨ severity = .error := by
  by_cases shown : shows
  · simp only [shown, ↓reduceIte, true_or, iff_true]
    exact agreesWith_statusText judged
  · simp only [shown, ↓reduceIte, false_or]
    exact severity.agreesWith_null_iff status

/-- The status field of a response shows its status, once its head has been sent. -/
theorem Extractor.field_status (view : Exchange.View) {response : Response}
    (known : view.response = some response) :
    field (status view) =
      if response.headersSent then response.status.statusText else .null := by
  simp only [status, known]
  cases response.headersSent with
  | false => rfl
  | true => cases response.status <;> rfl

namespace Registry

variable {σ : Type} {registry : Registry σ}

/-- The field of a token that names the status shows it, if the token has no arguments and the head
of the response has been sent. -/
theorem status_field (sound : registry.Sound)
    (builtin : registry.lookup? "status" = some (.plain "status" "status" Extractor.status))
    {name : String} {format : Format} (stored : (name, format) ∈ registry.formats) {token : Token}
    (present : token ∈ format.tokens) (status_key : token.key = "status") {view : Exchange.View}
    {response : Response} (known : view.response = some response) {state : σ} {record : Record}
    (compiled : (registry.compile name view state).outcome = .ok record) :
    record.find? token.raw =
      some (if token.args = [] ∧ response.headersSent = true then response.status.statusText
        else .null) := by
  have resolved : registry.resolve name = .ok format := by
    rw [resolve, Catalog.find?_of_mem sound.distinct stored]
  rw [compile, resolved] at compiled
  have drawn : ∀ state, (registry.draw view token state).1 =
      if token.args.isEmpty then Extractor.status view
      else .error (Fault.tooManyArguments "status" 1 2 (2 + token.args.length)) := by
    intro state
    rw [draw, status_key, builtin]
    rfl
  rw [find?_compileTokens compiled (sound.keyed _ stored).nodup_raws present drawn]
  cases args : token.args with
  | nil => simp [Extractor.field_status view known]
  | cons first rest => simp [Extractor.field]

end Registry
namespace Middleware

variable {S σ : Type} (middleware : Middleware σ) (server : Server S (World σ))

/-- The severity of a record is that of the status that the heads leave behind; the status field
shows it once a head could be read.  They agree exactly if a head could be read before the exchange
was finished and the token has no arguments, or if the severity is that of a missing status
anyway. -/
theorem severity_agrees_iff {users : UserReader} {plan : Registry.Plan} {fresh : Registry σ}
    (created : Registry.create users plan = .ok fresh) (history : List (Registration σ))
    (grown : middleware.registry = fresh.after history) {format : Format}
    (stored : (middleware.formatName, format) ∈ middleware.registry.formats) {token : Token}
    (listed : token ∈ format.tokens) (status_key : token.key = "status") (app : App (World σ))
    {scope : Scope} (http : scope.find? "type" = some (.str "http")) {request : Request}
    (built : Request.ofScope scope middleware.trustProxy = .ok request) (known : S)
    (world : World σ) :
    let course := middleware.course server app scope known world
    ∃ front signal exchange present after,
      middleware.CompletesAt course.incidents front signal exchange present after ∧
      let heads := (Incident.sentIn front).filter Message.isHead
      let status := Message.heldStatus heads
      let shows := token.args = [] ∧ heads.any Message.isReadable = true
      exchange.response.status = status ∧
        ∀ severity record, .emitted severity record ∈ course.incidents →
          Severity.ofStatus status = .ok severity ∧
          ∃ field, record.find? token.raw = some field ∧
            (shows → field = status.statusText) ∧ (¬ shows → field = .null) ∧
            (severity.AgreesWith status field ↔ shows ∨ severity = .error) := by
  intro course
  have sound : middleware.registry.Sound := grown ▸ (Registry.Sound.create created).after history
  have builtin : middleware.registry.lookup? "status" =
      some (.plain "status" "status" Extractor.status) := by
    rw [grown]
    exact Registry.lookup?_after_create created history rfl
  obtain ⟨front, signal, exchange, present, after, completes, stamped⟩ :=
    middleware.course_completes server
      (fun sent exchange => exchange.StampedBy (sent.filter Message.isHead))
      (fun sent exchange message stamp _ stamped => stamped.afterSend message stamp)
      app http built known world (Exchange.stampedBy_begin _)
  refine ⟨front, signal, exchange, present, after, completes, stamped.status, ?_⟩
  intro severity record emitted
  have within : Incident.emitted severity record ∈ middleware.emission exchange present := by
    have kept := List.mem_filter.mpr ⟨emitted, (rfl : Incident.isCompletion _ = true)⟩
    rw [completes.filter_isCompletion] at kept
    simpa using kept
  obtain ⟨judged, compiled⟩ := middleware.emitted_of_mem_emission within
  rw [stamped.status] at judged
  have shown := Registry.status_field sound builtin stored listed status_key rfl compiled
  rw [stamped.status, stamped.headersSent] at shown
  exact ⟨judged, _, shown, fun shows => if_pos shows, fun hides => if_neg hides,
    Severity.agreesWith_shown_iff judged _⟩

/-- A head that can be read comes after one that cannot; the record agrees. -/
theorem severity_agrees_after_second_head :
    let middleware := statusOnly (.keeping "kept")
    let server : Server Nat (World Unit) := .refusing 0 [] (.saying .system "gone")
    let broken : Message := [("type", .str "http.response.start"), ("status", .int 200),
      ("headers", .list [.list [.str "a"]])]
    let head : Message := [("type", .str "http.response.start"), ("status", .int 404)]
    let last : Message := [("type", .str "http.response.body")]
    let course := middleware.course server
      (fun _ => Script.program 0 [.trySend broken, .send head, .send last])
      [("type", .str "http")] 0 (World.start ⟨0⟩ () [])
    .emitted .warn [("Status", .str "404")] ∈ course.incidents ∧
      ∃ status, Severity.ofStatus status = .ok .warn ∧
        Severity.AgreesWith .warn status (.str "404") := by
  intro middleware server broken head last course
  have emitted : .emitted .warn [("Status", .str "404")] ∈ course.incidents :=
    List.mem_of_getElem? (rfl : course.incidents[5]? = _)
  have created : Registry.create Credentials.userName [(.str "brief", .list [.str "Status"])] =
      .ok middleware.registry := rfl
  obtain ⟨request, built⟩ :
      ∃ request, Request.ofScope [("type", .str "http")] false = .ok request := ⟨_, rfl⟩
  obtain ⟨front, signal, exchange, present, after, -, -, agrees⟩ :=
    middleware.severity_agrees_iff server created [] rfl List.mem_cons_self List.mem_cons_self rfl
      (fun _ => Script.program 0 [.trySend broken, .send head, .send last]) rfl built 0
      (World.start ⟨0⟩ () [])
  obtain ⟨judged, field, found, -, hides, agreement⟩ := agrees .warn _ emitted
  cases found
  refine ⟨emitted, _, judged, agreement.mpr (Or.inl ?_)⟩
  by_contra hidden
  cases hides hidden

/-- A head that cannot be read leaves its status behind, and the record disagrees. -/
theorem severity_disagrees_of_unreadable_head :
    let middleware := statusOnly (.keeping "kept")
    let server : Server Nat (World Unit) := .refusing 0 [] (.saying .system "gone")
    let broken : Message := [("type", .str "http.response.start"), ("status", .int 200),
      ("headers", .list [.list [.str "a"]])]
    let last : Message := [("type", .str "http.response.body")]
    let course := middleware.course server
      (fun _ => Script.program 0 [.trySend broken, .send last])
      [("type", .str "http")] 0 (World.start ⟨0⟩ () [])
    ∃ severity record, .emitted severity record ∈ course.incidents ∧
      record.find? "Status" = some .null ∧ Severity.ofStatus .null ≠ .ok severity := by
  intro middleware server broken last course
  refine ⟨.info, [("Status", .null)], ?_, rfl, by simp [Severity.ofStatus_null]⟩
  exact List.mem_of_getElem? (rfl : course.incidents[3]? = _)

end Middleware

end RequestLog
