import RequestLog.Proofs.Exchange.HeadStamps
import RequestLog.Proofs.Registry.HeaderTokens

/-!
# Headers of a response that has been sent

Stamping a head takes its headers over with their names as the app wrote them
(`Response.headSent_of_hasPairs`).  So the token of a response header draws what the headers with
the name in lower case come to, and misses those that are written with capital letters.
-/

namespace RequestLog

/-- The headers of the message are pairs of octets; there are none if it has no headers. -/
def Message.HasPairs (message : Message) (pairs : List (Octets × Octets)) : Prop :=
  ∃ entries, ((message.find? "headers").getD (.list [])).items? = some entries ∧
    Headers.ArePairs entries pairs

theorem Message.exists_hasPairs (pairs : List (Octets × Octets)) :
    ∃ message : Message, message.HasPairs pairs :=
  ⟨[("headers", .list _)], _, rfl, Headers.arePairs_map pairs⟩

namespace Response

variable {message : Message} {pairs : List (Octets × Octets)}

theorem takeHeaders_of_arePairs {entries : List Value} (listed : Headers.ArePairs entries pairs) :
    takeHeaders entries = .ok (pairs.map fun pair => .tuple [.bytes pair.1, .bytes pair.2]) := by
  induction entries generalizing pairs with
  | nil => rw [Headers.arePairs_nil_iff.mp listed]; rfl
  | cons entry rest ih =>
      obtain ⟨pair, others, rfl, split, later⟩ := Headers.arePairs_cons_iff.mp listed
      rw [takeHeaders, split, ih later]
      rfl

theorem headersOf_of_hasPairs (listed : message.HasPairs pairs) :
    headersOf message = .ok (.ofPairs pairs) := by
  obtain ⟨entries, items, paired⟩ := listed
  simp only [headersOf, items, takeHeaders_of_arePairs paired]
  rfl

theorem headSent_of_hasPairs (listed : message.HasPairs pairs) (response : Response)
    (stamp : Stamp) :
    (response.headSent stamp message).1.headersSent = true ∧
      (response.headSent stamp message).1.headers = .ofPairs pairs := by
  simp only [headSent, headersOf_of_hasPairs listed, and_self]

end Response

namespace Registry

variable {σ : Type} {users : UserReader} {plan : Plan} {fresh : Registry σ}
variable {name : String} {pairs : List (Octets × Octets)}

/-- Once a head is stamped, the token of a response header draws from the headers of the head. -/
theorem evaluate_res_of_headSent (created : create users plan = .ok fresh)
    (history : List (Registration σ)) (named : Headers.IsName name) {message : Message}
    (listed : message.HasPairs pairs) (response : Response) (stamp : Stamp) (request : Request)
    (now : Instant) (state : σ) :
    (fresh.after history).evaluate (.str ("res[" ++ name ++ "]"))
      ⟨request, some (response.headSent stamp message).1, now⟩ state =
      (.ok (Headers.valueOfTexts (Headers.textsOf (Text.lowercase name) pairs)), state) := by
  have unpadded : Token.IsPadding "" := nofun
  obtain ⟨sent, headers⟩ := Response.headSent_of_hasPairs listed response stamp
  obtain ⟨octets, lookup⟩ := named.exists_lookupName rfl
  have drawn := Headers.ofHeader_joined_of_hasPairs (Headers.hasPairs_ofPairs pairs) lookup
  have evaluated := evaluate_padded created history (Extractor.find?_builtins_res users) named rfl
    unpadded unpadded ⟨request, some (response.headSent stamp message).1, now⟩ state
  rw [Extractor.responseHeader_of_sent rfl sent, headers, drawn] at evaluated
  simpa [String.append_assoc] using evaluated

/-- Once a head is stamped, the token of a response header draws what the headers with the name in
lower case come to.  That is what the headers with the name in any case come to just if all of them
are in lower case, and among heads for which they are, the case of letters makes no difference.
Among all heads it makes none just if there is no header with the name in any case, or if the name
has no letters. -/
theorem response_headers_are_found_in_lower_case (created : create users plan = .ok fresh)
    (history : List (Registration σ)) (named : Headers.IsName name) {message : Message}
    (listed : message.HasPairs pairs) (response : Response) (stamp : Stamp) (request : Request)
    (now : Instant) (state : σ) :
    let drawn (message : Message) := (fresh.after history).evaluate (.str ("res[" ++ name ++ "]"))
      ⟨request, some (response.headSent stamp message).1, now⟩ state
    drawn message =
        (.ok (Headers.valueOfTexts (Headers.textsOf (Text.lowercase name) pairs)), state) ∧
      (drawn message = (.ok (Headers.valueOfTexts (Headers.textsInAnyCase name pairs)), state) ↔
        Headers.IsLowerIn name pairs) ∧
      (∀ (other : Message) (others : List (Octets × Octets)), other.HasPairs others →
        Headers.Recased pairs others → Headers.IsLowerIn name pairs →
        Headers.IsLowerIn name others →
        drawn other = drawn message) ∧
      ((∀ (other : Message) (others : List (Octets × Octets)), other.HasPairs others →
        Headers.Recased pairs others → drawn other = drawn message) ↔
        Headers.textsInAnyCase name pairs = [] ∨ ∀ c ∈ name.toList, c.isAlpha = false) := by
  intro drawn
  have found {message : Message} {pairs : List (Octets × Octets)}
      (listed : message.HasPairs pairs) :
      drawn message =
        (.ok (Headers.valueOfTexts (Headers.textsOf (Text.lowercase name) pairs)), state) :=
    evaluate_res_of_headSent created history named listed response stamp request now state
  have drawn_eq_iff {left right : Message} {firsts seconds : List (Octets × Octets)}
      (listed_left : left.HasPairs firsts) (listed_right : right.HasPairs seconds) :
      drawn left = drawn right ↔
        Headers.valueOfTexts (Headers.textsOf (Text.lowercase name) firsts) =
          Headers.valueOfTexts (Headers.textsOf (Text.lowercase name) seconds) := by
    rw [found listed_left, found listed_right, Prod.mk.injEq, Except.ok.injEq, and_iff_left rfl]
  refine ⟨found listed, ?_, fun other others listed_others recased all_lower others_lower => ?_, ?_⟩
  · rw [found listed, ← Headers.valueOfTexts_textsOf_eq_iff named, Prod.mk.injEq, Except.ok.injEq,
      and_iff_left rfl]
  · rw [drawn_eq_iff listed_others listed,
      (Headers.valueOfTexts_textsOf_eq_iff named).mpr all_lower,
      (Headers.valueOfTexts_textsOf_eq_iff named).mpr others_lower, recased.textsInAnyCase_eq]
  · rw [← Headers.valueOfTexts_recased_iff named]
    constructor
    · intro alike others recased
      obtain ⟨other, listed_other⟩ := Message.exists_hasPairs others
      exact (drawn_eq_iff listed_other listed).mp (alike other others listed_other recased)
    · intro alike other others listed_other recased
      exact (drawn_eq_iff listed_other listed).mpr (alike others recased)

/-- Two headers with the name in lower case around one with another name, the letters of which
change their case. -/
theorem response_headers_are_found_in_lower_case_of_other_name :
    let vary := Octets.ofText "vary"
    let trace (name : String) : List (Octets × Octets) :=
      [(vary, Octets.ofText "a"), (Octets.ofText name, Octets.ofText "b"),
        (vary, Octets.ofText "c")]
    let head (name : String) : Message := [("type", .str "http.response.start"),
      ("headers", .tuple ((trace name).map fun pair => .list [.bytes pair.1, .bytes pair.2]))]
    let request : Request :=
      ⟨.empty, .str "GET", .str "/", .str "1.1", .null, .null, .null, .null, none⟩
    let fresh : Registry Unit := ⟨Extractor.builtins Credentials.userName, []⟩
    let drawn (message : Message) := fresh.evaluate (.str "res[Vary]")
      ⟨request, some (Response.fresh.headSent ⟨0, ⟨0⟩⟩ message).1, ⟨0⟩⟩ ()
    (head "X-Trace").HasPairs (trace "X-Trace") ∧ Headers.IsLowerIn "Vary" (trace "X-Trace") ∧
      drawn (head "X-Trace") = (.ok (.str "a, c"), ()) ∧
      drawn (head "x-trace") = drawn (head "X-Trace") := by
  intro vary trace head request fresh drawn
  have created : create Credentials.userName [] = .ok fresh := rfl
  have named : Headers.IsName "Vary" := by
    have plain : Text.trim "Vary".toList = "Vary".toList := by decide +kernel
    refine ⟨⟨by decide, by decide, (Text.trim_eq_iff.mp plain).1⟩, by decide, ?_⟩
    simp
  have listed (name : String) : (head name).HasPairs (trace name) := ⟨_, rfl, rfl⟩
  have lower (name : String) (other : ¬Headers.IsCaseOf (Octets.ofText name) "Vary") :
      Headers.IsLowerIn "Vary" (trace name) := by
    have first : vary.latin = Text.lowercase "Vary" := by decide +kernel
    intro pair present cased
    simp only [trace, List.mem_cons, List.not_mem_nil, or_false] at present
    rcases present with rfl | rfl | rfl
    · exact first
    · exact absurd cased other
    · exact first
  have spelt := lower "X-Trace" (by decide +kernel)
  have respelt := lower "x-trace" (by decide +kernel)
  have recased : Headers.Recased (trace "X-Trace") (trace "x-trace") :=
    .cons ⟨rfl, rfl⟩ (.cons ⟨rfl, by decide +kernel⟩ (.cons ⟨rfl, rfl⟩ .nil))
  obtain ⟨found, -, alike, -⟩ := response_headers_are_found_in_lower_case created [] named
    (listed "X-Trace") .fresh ⟨0, ⟨0⟩⟩ request ⟨0⟩ ()
  exact ⟨listed _, spelt, found, alike _ _ (listed _) recased spelt respelt⟩

/-- A capital letter hides the length that a response has: the token of the length draws nothing. -/
theorem capital_letter_hides_response_header :
    let pairs := [(Octets.ofText "Content-Length", Octets.ofText "42")]
    let head (name : String) : Message := [("type", .str "http.response.start"),
      ("status", .int 200),
      ("headers", .list [.list [.bytes (Octets.ofText name), .bytes (Octets.ofText "42")]])]
    let request : Request :=
      ⟨.empty, .str "GET", .str "/", .str "1.1", .null, .null, .null, .null, none⟩
    let fresh : Registry Unit := ⟨Extractor.builtins Credentials.userName, []⟩
    let drawn (message : Message) := fresh.evaluate (.str "res[content-length]")
      ⟨request, some (Response.fresh.headSent ⟨0, ⟨0⟩⟩ message).1, ⟨0⟩⟩ ()
    (head "Content-Length").HasPairs pairs ∧
      Headers.textsInAnyCase "content-length" pairs = ["42"] ∧
      drawn (head "Content-Length") = (.ok .null, ()) ∧
      drawn (head "content-length") = (.ok (.str "42"), ()) := by
  intro pairs head request fresh drawn
  exact ⟨⟨_, rfl, rfl⟩, by decide +kernel, rfl, rfl⟩

end Registry
end RequestLog
