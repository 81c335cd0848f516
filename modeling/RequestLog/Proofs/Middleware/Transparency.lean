import RequestLog.Proofs.Middleware.Course
import RequestLog.Proofs.Registry.Containment

/-!
# The middleware is transparent

An app that does not look at the world cannot tell whether the middleware stands in front of its
server, and neither can the server, as long as the failures of extractors and of the sink are
ordinary and the messages of the app are well formed.  A single message is handed on as it is
(`passage_hands_on`), finishing an exchange never fails (`complete_ok`), and an induction over the
program puts the messages together.
-/

namespace RequestLog

/-- A program that goes on the same in every world. -/
inductive Program.Blind {W : Type} : Program W → Prop where
  | finish (ending : Outcome Unit) : Blind (.finish ending)
  | send (message : Message) {next : Outcome Unit → Program W} :
      (∀ result, Blind (next result)) → Blind (.send message next)
  | receive {next : Message → Program W} : (∀ message, Blind (next message)) → Blind (.receive next)
  | pause {next : Outcome Unit → Program W} : (∀ result, Blind (next result)) → Blind (.pause next)
  | effect (change : W → W) {next : Program W} : Blind next → Blind (.effect change fun _ => next)

theorem Script.blind_program {σ : Type} (call : Nat) (script : Script) :
    (script.program call : Program (World σ)).Blind := by
  induction script with
  | nil => exact .finish _
  | cons action rest ih =>
      cases action with
      | send message =>
          refine .send message fun result => ?_
          cases result with
          | ok taken => exact ih
          | error failure => exact .finish _
      | trySend message =>
          refine .send message fun result => ?_
          cases result with
          | ok taken => exact ih
          | error failure =>
              dsimp only
              split
              · exact .effect _ ih
              · exact .finish _
      | receive => exact .receive fun _ => ih
      | pause =>
          refine .pause fun result => ?_
          cases result with
          | ok resumed => exact ih
          | error failure => exact .finish _
      | raise failure => exact .finish _

/-- The value is a name and a value in octets. -/
def Value.IsOctetPair (entry : Value) : Prop :=
  ∃ name value, entry.items? = some [.bytes name, .bytes value]

/-- A message with a type; if it begins a response, its headers are pairs of octets. -/
structure Message.WellFormed (message : Message) : Prop where
  /-- The message has a type. -/
  typed : message.type?.isSome = true
  /-- The headers of a head are pairs of octets. -/
  headers : message.isHead = true → ∀ raw, message.find? "headers" = some raw →
    ∃ entries, raw.items? = some entries ∧ ∀ entry ∈ entries, entry.IsOctetPair

namespace Response

theorem takeHeaders_of_isOctetPair {entries : List Value}
    (paired : ∀ entry ∈ entries, entry.IsOctetPair) : ∃ taken, takeHeaders entries = .ok taken := by
  induction entries with
  | nil => exact ⟨[], rfl⟩
  | cons entry rest ih =>
      obtain ⟨name, value, parts⟩ := paired entry List.mem_cons_self
      obtain ⟨others, taken⟩ := ih fun later within => paired later (List.mem_cons_of_mem _ within)
      refine ⟨.tuple [.bytes name, .bytes value] :: others, ?_⟩
      rw [takeHeaders, Value.pair, parts, taken]
      rfl

theorem headersOf_of_wellFormed {message : Message} (wellFormed : message.WellFormed)
    (head : message.isHead = true) : ∃ headers, headersOf message = .ok headers := by
  obtain ⟨entries, listed, paired⟩ : ∃ entries,
      ((message.find? "headers").getD (.list [])).items? = some entries ∧
        ∀ entry ∈ entries, entry.IsOctetPair := by
    cases found : message.find? "headers" with
    | none => exact ⟨[], rfl, by simp⟩
    | some raw => exact wellFormed.headers head raw found
  obtain ⟨taken, read⟩ := takeHeaders_of_isOctetPair paired
  refine ⟨.listed taken, ?_⟩
  simp only [headersOf, listed, read]
  rfl

end Response

theorem Exchange.stampHead_ok {message : Message} (wellFormed : message.WellFormed)
    (head : message.isHead = true) (exchange : Exchange) (stamp : Stamp) :
    (exchange.stampHead stamp message).1 = .ok () := by
  obtain ⟨headers, read⟩ := Response.headersOf_of_wellFormed wellFormed head
  simp only [stampHead, Response.headSent, read]

namespace Course

variable {S σ : Type}

/-- Two courses of which server and app see the same. -/
structure Alike (left right : Course S σ) : Prop where
  /-- The server is handed the same messages and gives the same answers. -/
  handed : left.handed = right.handed
  /-- The app is told the same results. -/
  heard : left.heard = right.heard
  /-- The call ends the same. -/
  outcome : left.outcome = right.outcome
  /-- The server knows the same at the end. -/
  known : left.known = right.known

theorem Alike.since {left right : Course S σ} (alike : left.Alike right)
    {before after : List (Incident σ)}
    (handed : before.filterMap Incident.handed? = after.filterMap Incident.handed?)
    (heard : before.filterMap Incident.heard? = after.filterMap Incident.heard?) :
    (left.since before).Alike (right.since after) where
  handed := by
    have rest : left.incidents.filterMap Incident.handed? =
        right.incidents.filterMap Incident.handed? := alike.handed
    simp only [Course.handed, incidents_since, List.filterMap_append, handed, rest]
  heard := by
    have rest : left.incidents.filterMap Incident.heard? =
        right.incidents.filterMap Incident.heard? := alike.heard
    simp only [Course.heard, incidents_since, List.filterMap_append, heard, rest]
  outcome := alike.outcome
  known := alike.known

end Course

namespace Middleware

variable {S σ : Type} {middleware : Middleware σ}

/-- The failures of extractors and of the sink are ordinary. -/
structure IsTame (middleware : Middleware σ) : Prop where
  /-- The failures of extractors are ordinary. -/
  extractors : middleware.registry.IsTame
  /-- The failures of the sink are ordinary. -/
  sink : ∀ severity record world, Outcome.IsTame (middleware.sink severity record world).1

theorem IsTame.record (tame : middleware.IsTame) (exchange : Exchange) (world : World σ) :
    Outcome.IsTame (middleware.record exchange world).1 := by
  rw [Middleware.record]
  split
  · next fault judged => exact Outcome.isTame_fault fault
  · next severity judged =>
      split
      · next cause later compiled =>
          intro failure failed
          cases failed
          rw [tame.extractors.compile (congrArg Prod.fst compiled)]
          rfl
      · next made later compiled => exact tame.sink severity made later

/-- Finishing an exchange does not fail. -/
theorem IsTame.complete_ok (tame : middleware.IsTame) (exchange : Exchange) (world : World σ) :
    (middleware.complete exchange world).1.1 = .ok () := by
  by_cases finished : exchange.stage = .finished
  · rw [complete_of_finished _ finished]
  · rw [complete_of_unfinished _ finished]
    cases recorded : (middleware.record exchange world).1 with
    | ok taken => simp only [recorded, contained]
    | error failure =>
        simp only [recorded, contained, tame.record exchange world failure recorded, ↓reduceIte]

/-- The call ends as the app does. -/
theorem IsTame.conclude_outcome (tame : middleware.IsTame) (exchange : Exchange)
    (ending : Outcome Unit) (world : World σ) :
    (middleware.conclude exchange ending world).1 = ending := by
  simp only [conclude_eq, tame.complete_ok]
  rfl

/-- Nothing of a completion is a message. -/
theorem completion_silent (middleware : Middleware σ) (exchange : Exchange) (world : World σ) :
    (middleware.completion exchange world).filterMap Incident.handed? = [] ∧
      (middleware.completion exchange world).filterMap Incident.heard? = [] := by
  simp only [completion, emission]
  split
  · exact ⟨rfl, rfl⟩
  · split <;> exact ⟨rfl, rfl⟩

theorem report_silent (middleware : Middleware σ) (ending : Outcome Unit) :
    (middleware.report ending).filterMap Incident.handed? = [] ∧
      (middleware.report ending).filterMap Incident.heard? = [] := by
  unfold report
  split
  · exact ⟨rfl, rfl⟩
  · split <;> exact ⟨rfl, rfl⟩

theorem heard_finish (middleware : Middleware σ) (server : Server S (World σ))
    (ending : Outcome Unit) (exchange : Exchange) (known : S) (world : World σ) :
    (middleware.guardCourse server (.finish ending) exchange known world).heard = [] := by
  obtain ⟨-, report_heard⟩ := middleware.report_silent ending
  obtain ⟨-, completion_heard⟩ := middleware.completion_silent exchange
    (middleware.logFailure exchange.request ending world)
  rw [Course.heard, guardCourse, List.filterMap_cons_none rfl, List.filterMap_append, report_heard,
    completion_heard, List.append_nil]

/-- A passage in which the server is handed the message as it is, once, and the app is told its
answer. -/
structure Passage.HandsOn (passed : Passage S σ) (server : Server S (World σ)) (message : Message)
    (known : S) : Prop where
  /-- The server is handed the message alone. -/
  handed : passed.incidents.filterMap Incident.handed? =
    [(message, (server.answer known message).1)]
  /-- The app is told nothing on the way. -/
  heard : passed.incidents.filterMap Incident.heard? = []
  /-- The app is told the answer of the server. -/
  result : passed.result = (server.answer known message).1
  /-- The server knows what it does after the message. -/
  known : passed.known = (server.answer known message).2

theorem IsTame.handOn_handsOn (tame : middleware.IsTame) (server : Server S (World σ))
    (exchange : Exchange) (message : Message) (known : S) (world : World σ) :
    (middleware.handOn server exchange message known world).HandsOn server message known := by
  cases answered : server.answer known message with
  | mk answer later =>
      cases answer with
      | error failure => constructor <;> simp only [handOn, answered] <;> rfl
      | ok taken =>
          by_cases last : message.isFinalBody = true
          · let noted := server.noteSent message (.ok ()) world
            obtain ⟨none_handed, none_heard⟩ := middleware.completion_silent exchange noted
            constructor <;> simp only [handOn, answered, last, ↓reduceIte]
            · exact congrArg (List.cons (message, .ok ())) none_handed
            · exact none_heard
            · exact tame.complete_ok exchange noted
          · constructor <;>
              simp only [handOn, answered, last, Bool.false_eq_true, ↓reduceIte] <;> rfl

/-- A well-formed message is handed on as it is. -/
theorem IsTame.passage_handsOn (tame : middleware.IsTame) (server : Server S (World σ))
    (exchange : Exchange) {message : Message} (wellFormed : message.WellFormed) (known : S)
    (world : World σ) :
    (middleware.passage server exchange message known world).HandsOn server message known := by
  have typed : ¬ message.type?.isNone = true := by
    simp [Option.isNone_eq_false_iff.mpr wellFormed.typed]
  rw [passage, if_neg typed]
  split
  · next head =>
      have stamped : (stampHead exchange message world).1.1 = .ok () :=
        Exchange.stampHead_ok wellFormed (by simp_all) exchange _
      simp only [stamped]
      exact tame.handOn_handsOn server _ message known _
  · exact tame.handOn_handsOn server exchange message known world

/-- Behind the middleware a program that does not look at the world takes the course that it takes
without it, as far as its messages and its end are concerned. -/
theorem IsTame.guardCourse_alike (tame : middleware.IsTame) (server : Server S (World σ))
    {program : Program (World σ)} (blind : program.Blind) (exchange : Exchange) (known : S)
    (world bare : World σ)
    (wellFormed : ∀ message ∈ (program.course server known bare).handed, message.1.WellFormed) :
    (middleware.guardCourse server program exchange known world).Alike
      (program.course server known bare) := by
  induction blind generalizing exchange known world bare with
  | finish ending =>
      obtain ⟨report_handed, -⟩ := middleware.report_silent ending
      obtain ⟨completion_handed, -⟩ := middleware.completion_silent exchange
        (middleware.logFailure exchange.request ending world)
      refine ⟨?_, ?_, tame.conclude_outcome exchange ending world, rfl⟩
      · rw [Course.handed, guardCourse, List.filterMap_cons_none rfl, List.filterMap_append,
          report_handed, completion_handed]
        rfl
      · exact middleware.heard_finish server ending exchange known world
  | send message goes ih =>
      have shown : message.WellFormed := wellFormed (message, _) List.mem_cons_self
      obtain ⟨handed, heard, result, later⟩ :=
        tame.passage_handsOn server exchange shown known world
      simp only [guardCourse, Program.course]
      rw [result, later]
      refine Course.Alike.since (ih _ _ _ _ _ fun sent within => ?_) ?_ ?_
      · exact wellFormed sent (List.mem_cons_of_mem _ within)
      · rw [List.filterMap_append, handed]
        rfl
      · rw [List.filterMap_append, heard]
        rfl
  | receive goes ih => exact ih _ exchange known _ _ wellFormed
  | pause goes ih => exact ih _ exchange known _ _ wellFormed
  | effect change goes ih => exact ih exchange known _ _ wellFormed

/-- The middleware is transparent: if the failures of its extractors and its sink are ordinary,
every app that does not look at the world sends the same messages, is told the same results and ends
the same as without the middleware, and the server answers the same. -/
theorem wrap_transparent (tame : middleware.IsTame) (server : Server S (World σ))
    (app : App (World σ)) {scope : Scope} {kind : Value} (typed : scope.find? "type" = some kind)
    (built : kind.isText "http" = true →
      ∃ request, Request.ofScope scope middleware.trustProxy = .ok request)
    (blind : (app scope).Blind) (known : S) (world : World σ)
    (wellFormed : ∀ message ∈ ((app scope).course server known world).handed,
      message.1.WellFormed) :
    (middleware.course server app scope known world).Alike ((app scope).course server known world) ∧
      ((middleware.wrap app scope).run server known world).1 =
        ((app scope).run server known world).1 ∧
      ((middleware.wrap app scope).run server known world).2.1 =
        ((app scope).run server known world).2.1 := by
  have alike : (middleware.course server app scope known world).Alike
      ((app scope).course server known world) := by
    cases http : kind.isText "http" with
    | false =>
        simp only [course, typed, http, Bool.not_false, ↓reduceIte]
        exact ⟨rfl, rfl, rfl, rfl⟩
    | true =>
        obtain ⟨request, read⟩ := built http
        simp only [course, typed, http, Bool.not_true, Bool.false_eq_true, ↓reduceIte, read]
        exact tame.guardCourse_alike server blind _ known _ world wellFormed
  rw [run_wrap, Program.run_eq_course]
  exact ⟨alike, alike.outcome, alike.known⟩

/-- A sink that fails and a server that refuses the head of the response stay unnoticed. -/
theorem wrap_transparent_under_failures :
    let middleware := statusOnly (.failing (.saying .runtime "full"))
    let server : Server Nat (World Unit) := .refusing 0 [0] (.saying .system "gone")
    let head : Message := [("type", .str "http.response.start"), ("status", .int 204),
      ("headers", .list [.tuple [.bytes [101], .bytes [102]]])]
    let last : Message := [("type", .str "http.response.body")]
    let app : App (World Unit) := fun _ => Script.program 0 [.trySend head, .send last]
    let scope : Scope := [("type", .str "http")]
    let world : World Unit := World.start ⟨0⟩ () []
    (middleware.course server app scope 0 world).Alike ((app scope).course server 0 world) ∧
      ((app scope).course server 0 world).handed =
        [(head, .error (.saying .system "gone")), (last, .ok ())] := by
  intro middleware server head last app scope world
  have handed : ((app scope).course server 0 world).handed =
      [(head, .error (.saying .system "gone")), (last, .ok ())] := rfl
  have tame : middleware.IsTame := by
    refine ⟨Registry.isTame_of_builtins Credentials.isTame_userName _, ?_⟩
    intro severity record later failure failed
    cases failed
    rfl
  have wellFormed : ∀ message ∈ ((app scope).course server 0 world).handed,
      message.1.WellFormed := by
    rw [handed]
    intro message sent
    simp only [List.mem_cons, List.not_mem_nil, or_false] at sent
    rcases sent with rfl | rfl
    · refine ⟨rfl, fun _ raw found => ?_⟩
      cases found
      refine ⟨_, rfl, fun entry listed => ?_⟩
      rw [List.mem_singleton.mp listed]
      exact ⟨_, _, rfl⟩
    · exact ⟨rfl, fun _ raw found => by cases found⟩
  have typed : scope.find? "type" = some (.str "http") := rfl
  have built : ∃ request, Request.ofScope scope middleware.trustProxy = .ok request := ⟨_, rfl⟩
  have transparent := wrap_transparent tame server app typed (fun _ => built)
    (Script.blind_program 0 _) 0 world wellFormed
  exact ⟨transparent.1, handed⟩

end Middleware
end RequestLog
