import RequestLog.Proofs.Exchange.Scope
import RequestLog.Proofs.Middleware.Stamping

/-!
# What the middleware rejects

Reading a request and stamping the head of a response stand outside the shield around records.  A
scope that cannot be read keeps the app from being called.  A head that cannot be read is kept from
the server as long as no head is stamped, and the app is told the fault; every other head is handed
on and the app told the answer.  Scopes and heads whose entries have their types can all be read.
-/

namespace RequestLog

/-- After the incidents the next head is to be stamped: none of the heads sent so far can be read,
and the exchange is not finished. -/
structure Unstamped {σ : Type} (incidents : List (Incident σ)) : Prop where
  /-- None of the heads can be read. -/
  heads : ((Incident.sentIn incidents).filter Message.isHead).any Message.isReadable = false
  /-- Nothing has been finished or recorded. -/
  unfinished : ∀ incident ∈ incidents, incident.isCompletion = false

/-- What becomes of a head that the app sends after incidents, by the result that the app is
told. -/
inductive HeadFate {σ : Type} (front : List (Incident σ)) (message : Message)
    (result : Outcome Unit) : Prop where
  /-- It is to be stamped but cannot be read: the server is not handed it, and the app is told
  why. -/
  | rejected (fault : Fault) (unstamped : Unstamped front)
      (unreadable : Response.headersOf message = .error fault) (told : result = .error fault)
      (withheld : ∀ sent answer, front.getLast? ≠ some (.forwarded sent answer))
  /-- The server is handed it, and the app is told the answer. -/
  | handedOn (earlier : List (Incident σ)) (readable : Unstamped front → message.isReadable = true)
      (handed : front = earlier ++ [.forwarded message result])

theorem Unstamped.of_append {σ : Type} {front back : List (Incident σ)}
    (unstamped : Unstamped (front ++ back)) : Unstamped front where
  heads := by
    have all := unstamped.heads
    rw [Incident.sentIn_append, List.filter_append, List.any_append, Bool.or_eq_false_iff] at all
    exact all.1
  unfinished incident within := unstamped.unfinished incident (List.mem_append_left _ within)

/-- A message that finishes nothing leaves the next head to be stamped unless it is a head that can
be read. -/
theorem unstamped_append_told_iff {σ : Type} {before shown : List (Incident σ)} {message : Message}
    (result : Outcome Unit) (silent : Incident.sentIn shown = [])
    (quiet : ∀ incident ∈ shown, incident.isCompletion = false) :
    Unstamped (before ++ (shown ++ [.told message result])) ↔
      Unstamped before ∧ (message.isHead = true → message.isReadable = false) := by
  have sent : Incident.sentIn (before ++ (shown ++ [.told message result])) =
      Incident.sentIn before ++ [message] := by
    rw [Incident.sentIn_append, Incident.sentIn_append, silent]
    rfl
  constructor
  · intro unstamped
    refine ⟨unstamped.of_append, fun head => ?_⟩
    have heads := unstamped.heads
    rw [sent, List.filter_append, List.filter_cons_of_pos head, List.any_append,
      Bool.or_eq_false_iff] at heads
    simpa using heads.2
  · rintro ⟨unstamped, unreadable⟩
    refine ⟨?_, fun incident within => ?_⟩
    · rw [sent, List.filter_append, List.any_append, unstamped.heads, Bool.false_or]
      cases head : message.isHead with
      | false => simp [head]
      | true => simpa [head] using unreadable head
    · rcases List.mem_append.mp within with earlier | later
      · exact unstamped.unfinished incident earlier
      · rcases List.mem_append.mp later with shows | told
        · exact quiet incident shows
        · rw [List.mem_singleton.mp told]
          rfl

/-- The place of a message among incidents that begin with a message: it is that one or comes
later. -/
theorem Incident.split_told {σ : Type} {earlier rest front back : List (Incident σ)}
    {message sent : Message} {result answer : Outcome Unit}
    (quiet : ∀ incident ∈ earlier, incident.heard? = none)
    (same : earlier ++ .told message result :: rest = front ++ .told sent answer :: back) :
    (front = earlier ∧ sent = message ∧ answer = result) ∨
      ∃ later, front = earlier ++ .told message result :: later ∧
        rest = later ++ .told sent answer :: back := by
  rcases List.append_eq_append_iff.mp same with ⟨later, split, follows⟩ | ⟨later, split, follows⟩
  · cases later with
    | nil =>
        obtain ⟨told, -⟩ := List.cons.inj follows
        cases told
        exact Or.inl ⟨by simpa using split, rfl, rfl⟩
    | cons first later =>
        obtain ⟨rfl, others⟩ := List.cons.inj follows
        exact Or.inr ⟨later, split, others⟩
  · cases later with
    | nil =>
        obtain ⟨told, -⟩ := List.cons.inj follows
        cases told
        exact Or.inl ⟨by simpa using split.symm, rfl, rfl⟩
    | cons first later =>
        obtain ⟨rfl, -⟩ := List.cons.inj follows
        have silent := quiet (.told sent answer) (by rw [split]; simp)
        cases silent

namespace Exchange

/-- How an exchange stands after incidents. -/
structure StandsAfter {σ : Type} (exchange : Exchange) (before : List (Incident σ)) : Prop where
  /-- It waits for a head exactly if the next head is to be stamped. -/
  stage : exchange.stage = .arrived ↔ Unstamped before
  /-- The app was told the answer to what the server was handed. -/
  settled : ∀ sent answer, before.getLast? ≠ some (.forwarded sent answer)

theorem standsAfter_begin {σ : Type} (request : Request) :
    (Exchange.begin request).StandsAfter (σ := σ) [] where
  stage := ⟨fun _ => ⟨rfl, by simp⟩, fun _ => rfl⟩
  settled := by simp

end Exchange

namespace Middleware

variable {S σ : Type} (middleware : Middleware σ) (server : Server S (World σ))

theorem handOn_of_isHead (exchange : Exchange) {message : Message} (head : message.isHead = true)
    (known : S) (world : World σ) :
    let passed := middleware.handOn server exchange message known world
    passed.incidents = [.forwarded message passed.result] := by
  intro passed
  rcases middleware.handOn_cases server exchange message known world with
    ⟨answer, one, told, -⟩ | ⟨last, -⟩
  · rw [show passed.incidents = _ from one, show passed.result = _ from told]
  · rw [Message.isHead_of_isFinalBody last] at head
    cases head

/-- What becomes of one head. -/
theorem passage_of_isHead (exchange : Exchange) {message : Message} (head : message.isHead = true)
    (known : S) (world : World σ) :
    let passed := middleware.passage server exchange message known world
    (∃ fault, exchange.stage = .arrived ∧ Response.headersOf message = .error fault ∧
        passed.incidents = [] ∧ passed.result = .error fault) ∨
      ((exchange.stage = .arrived → message.isReadable = true) ∧
        passed.incidents = [.forwarded message passed.result]) := by
  have typed : ¬message.type?.isNone = true := by
    intro untyped
    simp [Message.isHead, Option.isNone_iff_eq_none.mp untyped] at head
  simp only [passage, if_neg typed, head, Bool.true_and, decide_eq_true_eq]
  split
  · next waits =>
      cases read : Response.headersOf message with
      | error fault =>
          have refused : (stampHead exchange message world).1.1 = .error fault := by
            simp only [stampHead, Exchange.stampHead, Response.headSent, read]
          exact Or.inl ⟨fault, waits, rfl, by simp only [refused, and_self]⟩
      | ok headers =>
          have stamped : (stampHead exchange message world).1.1 = .ok () := by
            simp only [stampHead, Exchange.stampHead, Response.headSent, read]
          refine Or.inr ⟨fun _ => Message.isReadable_of_ok read, ?_⟩
          simp only [stamped]
          exact middleware.handOn_of_isHead server _ head known _
  · next waits_not =>
      exact Or.inr ⟨fun waits => absurd waits waits_not,
        middleware.handOn_of_isHead server exchange head known world⟩

/-- One message of the app keeps the exchange in step with the incidents. -/
theorem standsAfter_passage {exchange : Exchange} {before : List (Incident σ)}
    (stands : exchange.StandsAfter before) (message : Message) (known : S) (world : World σ) :
    let passed := middleware.passage server exchange message known world
    passed.exchange.StandsAfter
      (before ++ (passed.incidents ++ [Incident.told message passed.result])) := by
  intro passed
  refine ⟨?_, by simp⟩
  rcases middleware.passage_advances server exchange message known world with
    ⟨same, silent, quiet⟩ | ⟨last, finished, present, shows⟩
  · rw [show passed.exchange = _ from same, Exchange.afterSend_stage_eq_arrived_iff, stands.stage,
      unstamped_append_told_iff _ silent fun incident within => (quiet incident within).1]
  · have gone : passed.exchange.stage = .finished := finished
    rw [gone]
    refine ⟨fun waits => (by cases waits), fun unstamped => ?_⟩
    -- The exchange is finished by this message, or it was before.
    by_cases already : exchange.stage = .finished
    · have waits := stands.stage.mpr unstamped.of_append
      rw [already] at waits
      cases waits
    · have shown : passed.incidents = .forwarded message (.ok ()) ::
          .finished exchange present :: middleware.emission exchange present := by
        rw [show passed.incidents = _ from shows, Exchange.afterSend_of_isFinalBody _ last,
          middleware.completion_of_unfinished already]
      have completion : Incident.isCompletion (.finished exchange present) = false :=
        unstamped.unfinished _ (by simp [shown])
      cases completion

theorem heard_passage (exchange : Exchange) (message : Message) (known : S) (world : World σ) :
    let passed := middleware.passage server exchange message known world
    ∀ incident ∈ passed.incidents, incident.heard? = none := by
  intro passed incident within
  rcases middleware.passage_cases server exchange message known world with
    ⟨failure, none_shown, -⟩ | ⟨answer, one_shown, -⟩ | ⟨-, present, shows, -⟩
  · rw [show passed.incidents = _ from none_shown] at within
    cases within
  · rw [show passed.incidents = _ from one_shown, List.mem_singleton] at within
    rw [within]
    rfl
  · rw [show passed.incidents = _ from shows, List.mem_cons] at within
    rcases within with rfl | completion
    · rfl
    · exact List.filterMap_eq_nil_iff.mp (middleware.completion_silent _ _).2 incident completion

/-- Of one message the app hears the result of sending it. -/
theorem heard_send (message : Message) (next : Outcome Unit → Program (World σ))
    (exchange : Exchange) (known : S) (world : World σ) :
    let passed := middleware.passage server exchange message known world
    (middleware.guardCourse server (.send message next) exchange known world).heard =
      (message, passed.result) ::
        (middleware.guardCourse server (next passed.result) passed.exchange
        passed.known passed.world).heard := by
  intro passed
  have silent : passed.incidents.filterMap Incident.heard? = [] :=
    List.filterMap_eq_nil_iff.mpr (middleware.heard_passage server exchange message known world)
  simp only [Course.heard, guardCourse, Course.incidents_since, List.filterMap_append]
  rw [silent]
  rfl

/-- Whatever the app does, each of its heads is handed on or rejected. -/
theorem headFate_of_mem_guardCourse (program : Program (World σ)) {exchange : Exchange}
    {before : List (Incident σ)} (stands : exchange.StandsAfter before) (known : S)
    (world : World σ) {front back : List (Incident σ)} {message : Message} {result : Outcome Unit}
    (shows : (middleware.guardCourse server program exchange known world).incidents =
      front ++ .told message result :: back) (head : message.isHead = true) :
    HeadFate (before ++ front) message result := by
  -- What has shown so far tells how the exchange stands, so the message is judged by the front
  -- alone.
  induction program generalizing exchange before known world front with
  | finish ending =>
      have heard := middleware.heard_finish server ending exchange known world
      rw [Course.heard, shows] at heard
      simp [Incident.heard?] at heard
  | send sent next ih =>
      let passed := middleware.passage server exchange sent known world
      have quiet := middleware.heard_passage server exchange sent known world
      simp only [guardCourse, Course.incidents_since, List.append_assoc, List.cons_append,
        List.nil_append] at shows
      rcases Incident.split_told quiet shows with ⟨rfl, rfl, rfl⟩ | ⟨later, rfl, follows⟩
      · rcases middleware.passage_of_isHead server exchange head known world with
          ⟨fault, waits, unreadable, none_shown, told⟩ | ⟨readable, one_shown⟩
        · have nothing : passed.incidents = [] := none_shown
          rw [nothing, List.append_nil]
          exact .rejected fault (stands.stage.mp waits) unreadable told stands.settled
        · have shown : passed.incidents = [.forwarded message passed.result] := one_shown
          rw [shown]
          exact .handedOn before
            (fun unstamped => readable (stands.stage.mpr unstamped.of_append)) rfl
      · have whole : before ++ (passed.incidents ++ .told sent passed.result :: later) =
            before ++ (passed.incidents ++ [.told sent passed.result]) ++ later := by simp
        rw [whole]
        exact ih _ (middleware.standsAfter_passage server stands sent known world) _ _ follows
  | receive next ih => exact ih _ stands _ _ shows
  | pause next ih => exact ih _ stands _ _ shows
  | effect change next ih => exact ih _ stands _ _ shows

/-- What cannot be read is rejected, and nothing else is.  If the scope of a request cannot be read,
the call fails and no app is called.  If it can, the app is called with it, and each head that the
app sends is handed on unless it cannot be read and no head is stamped yet.  Scopes and heads whose
entries have their types can be read. -/
theorem rejects_what_cannot_be_read (app : App (World σ)) {scope : Scope}
    (http : scope.find? "type" = some (.str "http")) :
    (∀ fault, Request.ofScope scope middleware.trustProxy = .error fault →
      middleware.wrap app scope = .finish (.error fault)) ∧
    (∀ request, Request.ofScope scope middleware.trustProxy = .ok request →
      middleware.wrap app scope = middleware.attend request (app scope) ∧
      ∀ known world, let course := middleware.course server app scope known world
        (middleware.wrap app scope).run server known world =
          (course.outcome, course.known, course.world) ∧
        ∀ front message result back,
          course.incidents = front ++ .told message result :: back → message.isHead = true →
          HeadFate front message result) ∧
    (scope.WellTyped → ∃ request, Request.ofScope scope middleware.trustProxy = .ok request) ∧
    ∀ message : Message, message.WellFormed → message.isHead = true →
      message.isReadable = true := by
  refine ⟨fun fault unread => ?_, fun request built => ⟨?_, fun known world => ⟨?_, ?_⟩⟩,
    fun typed => Request.ofScope_of_wellTyped typed _, fun message wellFormed head => ?_⟩
  · simp [wrap, http, unread, Value.isText]
  · simp [wrap, http, built, Value.isText]
  · exact middleware.run_wrap server app scope known world
  · intro front message result back shows head
    rw [middleware.course_of_http server app http built] at shows
    exact middleware.headFate_of_mem_guardCourse server (app scope) (Exchange.standsAfter_begin _)
      known _ shows head
  · obtain ⟨headers, read⟩ := Response.headersOf_of_wellFormed wellFormed head
    exact Message.isReadable_of_ok read

/-- A scope whose headers are a number keeps the app from being called.  Of two heads, the one
without headers is rejected and the other one handed on. -/
theorem rejects_what_cannot_be_read_of_null_headers :
    let middleware := statusOnly (.keeping "requests")
    let server : Server Nat (World Unit) := .refusing 0 [] (.saying .system "gone")
    let broken : Message := [("type", .str "http.response.start"), ("headers", .null)]
    let sound : Message := [("type", .str "http.response.start")]
    let app : App (World Unit) := fun _ => .send broken fun _ => .send sound .finish
    let scope : Scope := [("type", .str "http")]
    let unread : Scope := [("type", .str "http"), ("headers", .int 5)]
    let fault : Fault := .notIterable "NoneType"
    middleware.wrap app unread = .finish (.error (Fault.notIterable "int")) ∧
      (middleware.course server app scope 0 (World.start ⟨0⟩ () [])).handed = [(sound, .ok ())] ∧
      HeadFate (σ := Unit) [] broken (.error fault) ∧
      HeadFate (σ := Unit) [.told broken (.error fault), .forwarded sound (.ok ())]
        sound (.ok ()) := by
  intro middleware server broken sound app scope unread fault
  have http : scope.find? "type" = some (.str "http") := rfl
  have http_unread : unread.find? "type" = some (.str "http") := rfl
  obtain ⟨fails, -⟩ := rejects_what_cannot_be_read middleware server app http_unread
  obtain ⟨-, called, -⟩ := rejects_what_cannot_be_read middleware server app http
  obtain ⟨-, fates⟩ := (called _ rfl).2 0 (World.start ⟨0⟩ () [])
  exact ⟨fails _ rfl, rfl, fates [] broken _ _ rfl rfl, fates [_, _] sound _ _ rfl rfl⟩

/-- A head without headers never reaches the server, and the app is told a fault that is not of the
server. -/
theorem unreadable_head_is_withheld :
    let server : Server Nat (World Unit) := .refusing 0 [] (.saying .system "gone")
    let head : Message := [("type", .str "http.response.start"), ("status", .int 200),
      ("headers", .null)]
    let app : App (World Unit) := fun _ => .send head .finish
    let course := (statusOnly (.keeping "requests")).course server app [("type", .str "http")] 0
      (World.start ⟨0⟩ () [])
    (server.answer 0 head).1 = .ok () ∧ course.handed = [] ∧
      course.heard = [(head, .error (Fault.notIterable "NoneType"))] ∧
      course.outcome = .error (Fault.notIterable "NoneType") := by
  intro server head app course
  exact ⟨rfl, rfl, rfl, rfl⟩

end Middleware
end RequestLog
