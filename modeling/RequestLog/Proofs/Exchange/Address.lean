import RequestLog.Proofs.Exchange.Scope
import RequestLog.Proofs.Registry.Builtins

/-!
# The address of a request

A request that does not trust proxies is known by the host of its peer, whatever its headers say
(`address_of_untrusting`).  One that trusts them is known by the first hop that they report, and by
the host of the peer if they report none (`address_of_trusting`).  Stamping the arrival keeps the
address, and from then on the peer does not matter any more (`address_arrived_of_peer`).
-/

namespace RequestLog

/-- A computation yields what the rest of it makes of its first result. -/
theorem bind_eq_ok_iff {α β : Type} {first : Except Fault α} {rest : α → Except Fault β}
    {result : β} :
    first >>= rest = .ok result ↔ ∃ value, first = .ok value ∧ rest value = .ok result := by
  cases first <;> simp [bind, Except.bind]

namespace Scope

/-- The headers of the scope are pairs of octets; there are none if it has no headers. -/
def HasPairs (scope : Scope) (pairs : List (Octets × Octets)) : Prop :=
  (scope.getD "headers" .null = .null ∧ pairs = []) ∨
    ∃ entries, (scope.getD "headers" .null).items? = some entries ∧
      Headers.ArePairs entries pairs

/-- The peer of the scope is given by its host and its port, or there is none. -/
def HasPeer (scope : Scope) : Option String → Prop
  | none => scope.getD "client" .null = .null
  | some host => ∃ port, scope.getD "client" .null = .list [.str host, port] ∨
      scope.getD "client" .null = .tuple [.str host, port]

/-- The two scopes have the same entries but for their headers. -/
def AgreeButForHeaders (left right : Scope) : Prop :=
  ∀ name, name ≠ "headers" → left.find? name = right.find? name

theorem headers_of_hasPairs {scope : Scope} {pairs : List (Octets × Octets)}
    (listed : scope.HasPairs pairs) :
    ∃ headers, scope.headers = .ok headers ∧ headers.HasPairs pairs := by
  unfold HasPairs at listed
  unfold Scope.headers
  generalize scope.getD "headers" .null = raw at listed
  rcases listed with ⟨rfl, rfl⟩ | ⟨entries, items, paired⟩
  · exact ⟨.empty, rfl, [], rfl, rfl⟩
  · cases truthy : raw.truthy with
    | true => exact ⟨.listed entries, by simp [truthy, items], entries, rfl, paired⟩
    | false =>
        have nothing : entries = [] := by
          cases raw <;> simp_all [Value.truthy, Value.items?]
        exact ⟨.empty, by simp [truthy], [], rfl, nothing ▸ paired⟩

theorem peerAddress_of_hasPeer {scope : Scope} {host : Option String} (peer : scope.HasPeer host) :
    scope.peerAddress = .ok (Extractor.textOrNull host) := by
  rw [peerAddress]
  cases host with
  | none => rw [show scope.getD "client" .null = .null from peer]; rfl
  | some host =>
      obtain ⟨port, listed | listed⟩ := peer <;> rw [listed] <;> rfl

namespace AgreeButForHeaders

variable {left right : Scope} (agree : AgreeButForHeaders left right)

include agree

theorem getD {name : String} (other : name ≠ "headers") (fallback : Value) :
    left.getD name fallback = right.getD name fallback := by
  rw [Scope.getD, Scope.getD, agree name other]

theorem url : left.url = right.url := by
  rw [Scope.url, Scope.url, Scope.path, Scope.path, agree.getD (by decide), agree.getD (by decide),
    agree.getD (by decide), agree.getD (by decide)]

theorem httpVersion : left.httpVersion = right.httpVersion := by
  rw [Scope.httpVersion, Scope.httpVersion, agree.getD (by decide)]

theorem peerAddress : left.peerAddress = right.peerAddress := by
  rw [Scope.peerAddress, Scope.peerAddress, agree.getD (by decide)]

end AgreeButForHeaders
end Scope

namespace Request

/-- The host of a peer, absent if there is none or if it is empty. -/
def knownHost : Option String → Value
  | some host => if host = "" then .null else .str host
  | none => .null

/-- What a request is known by before its arrival: the reported address, or else the host of the
peer. -/
theorem address_of_unstamped {request : Request} {hop host : Option String} (filled : hop ≠ some "")
    (reported : request.reportedAddress = Extractor.textOrNull hop)
    (unstamped : request.remoteAddress = .null)
    (peer : request.peerAddress = Extractor.textOrNull host) :
    request.address = (hop.map Value.str).getD (knownHost host) := by
  rw [address, reported, unstamped, peer]
  cases hop with
  | some hop =>
      have something : hop ≠ "" := fun nothing => filled (congrArg some nothing)
      simp [Extractor.textOrNull, Value.truthy, something]
  | none =>
      cases host with
      | none => rfl
      | some host =>
          by_cases nothing : host = "" <;>
            simp [Extractor.textOrNull, Value.truthy, knownHost, nothing]

/-- An address is there, or it is absent; a value that counts as neither is passed over. -/
theorem truthy_address {request : Request} (known : request.address ≠ .null) :
    request.address.truthy = true := by
  revert known
  rw [address]
  split_ifs with reported remote peer <;> simp [*]

/-- Once it is kept, the address stays what it was. -/
theorem address_arrived (request : Request) (stamp : Stamp) :
    (request.arrived stamp request.address).address = request.address := by
  have passed : Value.null.truthy = false := rfl
  by_cases reported : request.reportedAddress.truthy = true
  · simp [address, arrived, reported]
  · by_cases remote : request.remoteAddress.truthy = true
    · simp [address, arrived, reported, remote]
    · by_cases peer : request.peerAddress.truthy = true <;>
        simp [address, arrived, reported, remote, peer, passed]

/-- A request that was known on arrival is known by the same address, whoever the peer is. -/
theorem address_arrived_of_peer {request : Request} (stamp : Stamp)
    (known : request.address ≠ .null) (peer : Value) :
    { request.arrived stamp request.address with peerAddress := peer }.address =
      request.address := by
  have truthy := truthy_address known
  rw [address]
  simp only [arrived, truthy, ↓reduceIte]
  split_ifs with reported
  · rw [address, if_pos reported]
  · rfl

/-- Each part of a request that is read is read from the scope, and no address is kept yet. -/
theorem ofScope_eq_ok {scope : Scope} {trustProxy : Bool} {request : Request}
    (read : ofScope scope trustProxy = .ok request) :
    scope.headers = .ok request.headers ∧ scope.url = .ok request.url ∧
      scope.httpVersion = .ok request.httpVersion ∧ scope.peerAddress = .ok request.peerAddress ∧
      (if trustProxy then request.headers.forwardedFor else .ok .null) =
        .ok request.reportedAddress ∧
      request.remoteAddress = .null := by
  obtain ⟨headers, headers_eq, read⟩ := bind_eq_ok_iff.mp read
  obtain ⟨url, url_eq, read⟩ := bind_eq_ok_iff.mp read
  obtain ⟨version, version_eq, read⟩ := bind_eq_ok_iff.mp read
  obtain ⟨peer, peer_eq, read⟩ := bind_eq_ok_iff.mp read
  cases trustProxy with
  | false =>
      cases read
      exact ⟨headers_eq, url_eq, version_eq, peer_eq, rfl, rfl⟩
  | true =>
      obtain ⟨reported, reported_eq, read⟩ := bind_eq_ok_iff.mp read
      cases read
      exact ⟨headers_eq, url_eq, version_eq, peer_eq, reported_eq, rfl⟩

section Reading

variable {scope : Scope} {pairs : List (Octets × Octets)} {host : Option String} {request : Request}

theorem address_of_untrusting (peer : scope.HasPeer host)
    (read : ofScope scope false = .ok request) :
    request.address = knownHost host := by
  obtain ⟨-, -, -, peer_eq, reported, unstamped⟩ := ofScope_eq_ok read
  rw [scope.peerAddress_of_hasPeer peer] at peer_eq
  have unreported : request.reportedAddress = Extractor.textOrNull none :=
    (Except.ok.inj reported).symm
  exact address_of_unstamped (Option.some_ne_none "").symm unreported unstamped
    (Except.ok.inj peer_eq).symm

theorem address_of_trusting (listed : scope.HasPairs pairs) (peer : scope.HasPeer host)
    (read : ofScope scope true = .ok request) :
    request.address = ((Headers.firstHop? pairs).map Value.str).getD (knownHost host) := by
  obtain ⟨headers_eq, -, -, peer_eq, reported, unstamped⟩ := ofScope_eq_ok read
  obtain ⟨headers, found, paired⟩ := scope.headers_of_hasPairs listed
  rw [scope.peerAddress_of_hasPeer peer] at peer_eq
  obtain rfl := Except.ok.inj (found.symm.trans headers_eq)
  rw [if_pos rfl, Headers.forwardedFor_of_hasPairs paired] at reported
  exact address_of_unstamped (Headers.firstHop?_ne_empty pairs)
    (Except.ok.inj reported).symm unstamped (Except.ok.inj peer_eq).symm

/-- Without trust in proxies, other headers in the scope leave the address as it is. -/
theorem exists_ofScope_of_agree (read : ofScope scope false = .ok request) {other : Scope}
    (agree : other.AgreeButForHeaders scope) (listed : other.HasPairs pairs) :
    ∃ same, ofScope other false = .ok same ∧ same.address = request.address := by
  obtain ⟨-, url, version, peer, reported, unstamped⟩ := ofScope_eq_ok read
  obtain ⟨headers, found, -⟩ := other.headers_of_hasPairs listed
  rw [← agree.url] at url
  rw [← agree.httpVersion] at version
  rw [← agree.peerAddress] at peer
  rw [ofScope, found, url, version, peer]
  refine ⟨_, rfl, ?_⟩
  rw [address, address, unstamped, ← Except.ok.inj reported]

/-- A request without trust in proxies is known by the host of its peer, and so is every request
that differs in its headers only.  With trust it is known by the first hop that proxies report, if
they report one.  Either way the address is the same after the arrival, and if there is one, it
stays the same whoever the peer is said to be. -/
theorem address_from_peer_or_trusted_proxy (listed : scope.HasPairs pairs)
    (peer : scope.HasPeer host) :
    (scope.WellTyped → ∀ trustProxy, ∃ request, ofScope scope trustProxy = .ok request) ∧
    (∀ request, ofScope scope false = .ok request →
      request.address = knownHost host ∧
        ∀ (other : Scope) (others : List (Octets × Octets)), other.AgreeButForHeaders scope →
          other.HasPairs others →
          ∃ same, ofScope other false = .ok same ∧ same.address = request.address) ∧
    (∀ request, ofScope scope true = .ok request →
      request.address = ((Headers.firstHop? pairs).map Value.str).getD (knownHost host)) ∧
    (∀ (request : Request) (stamp : Stamp),
      let arrived := request.arrived stamp request.address
      arrived.address = request.address ∧
        (request.address ≠ .null → ∀ peer : Value,
          { arrived with peerAddress := peer }.address = request.address)) ∧
    ∀ {σ : Type} {users : UserReader} {plan : Registry.Plan} {fresh : Registry σ},
      Registry.create users plan = .ok fresh →
      ∀ (history : List (Registration σ)) (view : Exchange.View) (state : σ),
        (fresh.after history).evaluate (.str "remote-addr") view state =
          (.ok view.request.address, state) := by
  refine ⟨ofScope_of_wellTyped, fun request read => ⟨address_of_untrusting peer read, ?_⟩,
    fun request read => address_of_trusting listed peer read, ?_, ?_⟩
  · intro other others agree otherwise
    exact exists_ofScope_of_agree read agree otherwise
  · intro request stamp arrived
    exact ⟨address_arrived request stamp, fun known peer =>
      address_arrived_of_peer stamp known peer⟩
  · intro σ users plan fresh created history view state
    have builtin : (Extractor.builtins (σ := σ) users).find? "remote-addr" =
        some (.plain "remote_addr" "remote_addr" fun view => .ok view.request.address) := rfl
    exact Registry.evaluate_plain created history builtin view state

/-- Two headers for hops behind another one, and a scope with the same peer but without headers. -/
theorem address_from_peer_or_trusted_proxy_of_two_hops :
    let hops := Octets.ofText "x-forwarded-for"
    let pairs := [(Octets.ofText "host", Octets.ofText "a"),
      (hops, Octets.ofText " 10.0.0.1 , 10.0.0.2"), (hops, Octets.ofText "10.0.0.3")]
    let client : Value := .list [.str "192.0.2.7", .int 4711]
    let scope : Scope := [("type", .str "http"), ("client", client),
      ("headers", .list (pairs.map fun pair => .tuple [.bytes pair.1, .bytes pair.2]))]
    let other : Scope := [("type", .str "http"), ("client", client)]
    scope.HasPairs pairs ∧ scope.HasPeer (some "192.0.2.7") ∧ scope.WellTyped ∧
      ∃ wary trusting same, ofScope scope false = .ok wary ∧ ofScope scope true = .ok trusting ∧
        ofScope other false = .ok same ∧ wary.address = .str "192.0.2.7" ∧
        trusting.address = .str "10.0.0.1" ∧ same.address = wary.address ∧
        ∀ stamp peer, { wary.arrived stamp wary.address with peerAddress := peer }.address =
          .str "192.0.2.7" := by
  intro hops pairs client scope other
  have listed : scope.HasPairs pairs := Or.inr ⟨_, rfl, by rw [Headers.ArePairs, List.map_map]; rfl⟩
  have peer : scope.HasPeer (some "192.0.2.7") := ⟨.int 4711, Or.inl rfl⟩
  have absent {name : String} {Property : Value → Prop} (missing : scope.find? name = none)
      (raw : Value) (found : scope.find? name = some raw) : Property raw := by
    rw [missing] at found
    cases found
  have typed : scope.WellTyped := by
    refine ⟨fun raw found => Or.inr ?_, absent rfl, absent rfl, absent rfl, absent rfl, absent rfl,
      fun raw found => Or.inr ?_⟩
    · cases found
      refine ⟨_, rfl, fun entry within => ?_⟩
      obtain ⟨pair, -, rfl⟩ := List.mem_map.mp within
      exact ⟨pair.1, pair.2, rfl⟩
    · cases found
      exact ⟨_, _, Or.inl rfl⟩
  have agree : other.AgreeButForHeaders scope := by
    intro name differs
    simp only [scope, other, Catalog.find?, if_neg differs.symm]
  obtain ⟨total, wary_known, trusting_known, kept, -⟩ :=
    address_from_peer_or_trusted_proxy listed peer
  obtain ⟨wary, wary_read⟩ := total typed false
  obtain ⟨trusting, trusting_read⟩ := total typed true
  obtain ⟨known, alike⟩ := wary_known wary wary_read
  have host : wary.address = .str "192.0.2.7" := known
  obtain ⟨same, same_read, same_address⟩ := alike other [] agree (Or.inl ⟨rfl, rfl⟩)
  refine ⟨listed, peer, typed, wary, trusting, same, wary_read, trusting_read, same_read, host, ?_,
    same_address, fun stamp peer => ?_⟩
  · have hop : Headers.firstHop? pairs = some "10.0.0.1" := by decide +kernel
    rw [trusting_known trusting trusting_read, hop]
    rfl
  · have some_address : wary.address ≠ .null := by simp [host]
    rw [(kept wary stamp).2 some_address peer, host]

end Reading

end Request
end RequestLog
