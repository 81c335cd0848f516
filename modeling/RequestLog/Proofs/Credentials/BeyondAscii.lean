import RequestLog.Proofs.Credentials
import RequestLog.Proofs.Headers.Pairs
import RequestLog.Proofs.Registry.Evaluation

/-!
# Credentials that cannot be read

Whatever is wrong with a header of the basic scheme, there are no credentials then, with one
exception: a character beyond ASCII in the encoded part is a fault (`ofHeader_eq_error_iff`).  The
fault is the one failure of reading the credentials of a request, and so the one reason for a
complaint about the field of the user's name.
-/

namespace RequestLog
namespace Credentials

/-- The header is of the basic scheme, and a character beyond ASCII stands in its encoded part. -/
def IsForeign (header : String) : Prop :=
  ∃ scheme rest, header = scheme ++ " " ++ rest ∧ IsScheme scheme ∧
    ∃ c ∈ Text.trim rest.toList, 128 ≤ c.toNat

/-- Reading a header fails just for a character beyond ASCII in the encoded part. -/
theorem ofHeader_eq_error_iff {header : String} {fault : Fault} :
    ofHeader header = .error fault ↔ fault = .beyondAscii ∧ IsForeign header := by
  constructor
  · intro failed
    rcases ofHeader_cases header with nothing | ⟨scheme, rest, rfl, basic, some_code⟩
    · rw [nothing] at failed
      cases failed
    · rw [ofHeader_of_basic basic some_code] at failed
      split at failed
      · next foreign =>
          obtain ⟨c, within, beyond⟩ := List.any_eq_true.mp foreign
          exact ⟨(Except.error.inj failed).symm, scheme, rest, rfl, basic, c, within,
            of_decide_eq_true beyond⟩
      · cases failed
  · rintro ⟨rfl, scheme, rest, rfl, basic, c, within, beyond⟩
    have foreign : ((Text.trim rest.toList).any fun c => 128 ≤ c.toNat) = true :=
      List.any_eq_true.mpr ⟨c, within, decide_eq_true beyond⟩
    rw [ofHeader_of_basic basic (List.ne_nil_of_mem within), if_pos foreign]

/-- The first authorization header among pairs of octets is a foreign one. -/
def IsForeignIn (pairs : List (Octets × Octets)) : Prop :=
  ∃ header, (Headers.textsOf "authorization" pairs).head? = some header ∧ IsForeign header

section Requests

variable {request : Request} {pairs : List (Octets × Octets)}

/-- Reading the credentials of a request fails just for a foreign header. -/
theorem ofRequest_eq_error_iff (listed : request.headers.HasPairs pairs) {fault : Fault} :
    ofRequest request = .error fault ↔ fault = .beyondAscii ∧ IsForeignIn pairs := by
  have lowered : Text.lowercase "authorization" = "authorization" := by decide +kernel
  have got := Headers.get_of_hasPairs listed lookupName_authorization
  rw [lowered] at got
  rw [ofRequest, got, IsForeignIn]
  cases (Headers.textsOf "authorization" pairs).head? with
  | none => simp [bind, Except.bind, pure, Except.pure, Value.truthy]
  | some header => simpa [bind, Except.bind] using ofHeader_eq_error_iff

theorem remoteUser_eq_error_iff (listed : request.headers.HasPairs pairs) {failure : Failure}
    {view : Exchange.View} (same : view.request = request) :
    Extractor.remoteUser userName view = .error failure ↔
      failure = .fault .beyondAscii ∧ IsForeignIn pairs := by
  have failing (fault : Fault) : ofRequest request = .error fault ↔
      fault = .beyondAscii ∧ IsForeignIn pairs := ofRequest_eq_error_iff listed
  rw [Extractor.remoteUser, userName, same]
  cases read : ofRequest request with
  | ok found =>
      have readable : ¬IsForeignIn pairs := by
        intro foreign
        cases read.symm.trans ((failing .beyondAscii).mpr ⟨rfl, foreign⟩)
      simp [readable]
  | error fault =>
      obtain ⟨rfl, foreign⟩ := (failing fault).mp read
      simp [foreign, eq_comm]

end Requests

/-- Reading the credentials of a request whose headers are pairs of octets fails exactly for a
character beyond ASCII in the encoded part of the first authorization header, if that is of the
basic scheme; in every other case there are credentials or there are none.  So the field of the
user's name is complained about for this one reason, and it is complained about whenever a record is
made of such a request. -/
theorem fails_only_beyond_ascii {request : Request} {pairs : List (Octets × Octets)}
    (listed : request.headers.HasPairs pairs) :
    (∀ fault, ofRequest request = .error fault ↔ fault = .beyondAscii ∧ IsForeignIn pairs) ∧
    ((∃ found, ofRequest request = .ok found) ↔ ¬IsForeignIn pairs) ∧
    ∀ {σ : Type} {plan : Registry.Plan} {fresh : Registry σ},
      Registry.create userName plan = .ok fresh →
      ∀ (history : List (Registration σ)) (stored : String × Format) (token : Token),
        stored ∈ (fresh.after history).formats → token ∈ stored.2.tokens →
        token.key = "remote-user" → token.args = [] →
        ∀ (response : Option Response) (now : Instant) (state : σ),
          let compilation := (fresh.after history).compile stored.1 ⟨request, response, now⟩ state
          (∀ failure, ⟨token.raw, failure⟩ ∈ compilation.complaints →
            failure = .fault .beyondAscii ∧ IsForeignIn pairs) ∧
          ∀ record, compilation.outcome = .ok record → IsForeignIn pairs →
            ⟨token.raw, .fault .beyondAscii⟩ ∈ compilation.complaints := by
  have failing (fault : Fault) : ofRequest request = .error fault ↔
      fault = .beyondAscii ∧ IsForeignIn pairs := ofRequest_eq_error_iff listed
  refine ⟨failing, ⟨?_, fun readable => ?_⟩, ?_⟩
  · rintro ⟨found, read⟩ foreign
    cases read.symm.trans ((failing .beyondAscii).mpr ⟨rfl, foreign⟩)
  · cases read : ofRequest request with
    | ok found => exact ⟨found, rfl⟩
    | error fault => exact absurd ((failing fault).mp read).2 readable
  · intro σ plan fresh created history stored token kept present keyed bare response now state
      compilation
    have sound : (fresh.after history).Sound := (Registry.Sound.create created).after history
    have builtin : (Extractor.builtins (σ := σ) userName).find? "remote-user" = some (.plain
        "remote_user" "make_remote_user.<locals>.remote_user"
        (Extractor.remoteUser userName)) := rfl
    have drawn := Registry.draw_plain created history builtin keyed bare ⟨request, response, now⟩
    refine ⟨fun failure complained => ?_, fun record made foreign => ?_⟩
    · obtain ⟨before, failed⟩ := sound.draw_of_mem_complaints kept present complained
      rw [drawn] at failed
      exact (remoteUser_eq_error_iff listed rfl).mp failed
    · refine sound.mem_complaints_of_draw kept present made fun before => ?_
      rw [drawn]
      exact (remoteUser_eq_error_iff listed rfl).mpr ⟨rfl, foreign⟩

/-- The scheme in mixed case, and an umlaut behind the encoded part of the first of two
authorization headers. -/
theorem fails_only_beyond_ascii_of_umlaut :
    let broken : Octets := Octets.ofText "bAsIC \tYTpi" ++ [252]
    let pairs := [(Octets.ofText "host", [120]), (headerName, broken),
      (headerName, Octets.ofText "Basic YTpi")]
    let request : Request :=
      ⟨.ofPairs pairs, .str "GET", .str "/", .str "1.1", .null, .null, .null, .null, none⟩
    let format : Format :=
      [("method", ⟨"method", "method", []⟩), ("remote-user", ⟨"Remote-User", "remote-user", []⟩)]
    let fresh : Registry Unit := ⟨Extractor.builtins userName, [("own", format)]⟩
    request.headers.HasPairs pairs ∧ ofRequest request = .error .beyondAscii ∧
      ⟨"Remote-User", .fault .beyondAscii⟩ ∈
        (fresh.compile "own" ⟨request, none, ⟨0⟩⟩ ()).complaints := by
  intro broken pairs request format fresh
  have listed : request.headers.HasPairs pairs := Headers.hasPairs_ofPairs pairs
  have foreign : IsForeignIn pairs := by
    refine ⟨"bAsIC \tYTpiü", by decide +kernel, "bAsIC", "\tYTpiü", rfl, by decide +kernel, 'ü', ?_⟩
    decide +kernel
  have created : Registry.create userName
      [(.str "own", .list [.str "method", .str "Remote-User"])] = .ok fresh := rfl
  have tame : fresh.IsTame := Registry.isTame_of_builtins isTame_userName _
  obtain ⟨failing, -, complaining⟩ := fails_only_beyond_ascii listed
  refine ⟨listed, (failing .beyondAscii).mpr ⟨rfl, foreign⟩, ?_⟩
  have drawn (token : Token) (_ : token ∈ format.tokens) (state : Unit) :
      Outcome.IsTame (fresh.draw ⟨request, none, ⟨0⟩⟩ token state).1 := tame.draw _ token state
  obtain ⟨record, made⟩ := Registry.exists_record_of_draws drawn [] ()
  exact (complaining created [] ("own", format) ⟨"Remote-User", "remote-user", []⟩
    List.mem_cons_self (List.mem_cons_of_mem _ List.mem_cons_self) rfl rfl none ⟨0⟩ ()).2
    record made foreign

/-- An accented letter as the encoded part: reading the credentials fails, and a record of the
default registry is made with a complaint about the user's name. -/
theorem foreign_letter_is_fault :
    let pairs := [(headerName, Octets.ofText "Basic " ++ [233])]
    let request : Request :=
      ⟨.ofPairs pairs, .str "GET", .str "/", .str "1.1", .null, .null, .null, .null, none⟩
    let complaints (registry : Registry Unit) :=
      (registry.compile "short" ⟨request, none, ⟨0⟩⟩ ()).complaints.map FieldFailure.raw
    request.headers.HasPairs pairs ∧ ofRequest request = .error .beyondAscii ∧
      (Registry.create userName Registry.builtinPlan).toOption.map complaints =
        some ["remote-user"] := by
  intro pairs request complaints
  exact ⟨Headers.hasPairs_ofPairs pairs, rfl, by decide +kernel⟩

end Credentials
end RequestLog
