import RequestLog.Proofs.Headers.Pairs
import RequestLog.Proofs.Middleware.Transparency

/-!
# Scopes that can be read

A server that keeps to its protocol hands over entries of certain types, or leaves them out.  Such a
scope is always read: each part of the request is a text, or what the scope has in its place.
-/

namespace RequestLog

namespace Headers

theorem exists_arePairs {entries : List Value} (paired : ∀ entry ∈ entries, entry.IsOctetPair) :
    ∃ pairs, ArePairs entries pairs := by
  induction entries with
  | nil => exact ⟨[], rfl⟩
  | cons entry rest ih =>
      obtain ⟨name, value, parts⟩ := paired entry List.mem_cons_self
      obtain ⟨others, later⟩ := ih fun other within => paired other (List.mem_cons_of_mem _ within)
      have split : entry.pair = .ok (.bytes name, .bytes value) := by rw [Value.pair, parts]
      exact ⟨(name, value) :: others,
        arePairs_cons_iff.mpr ⟨(name, value), others, rfl, split, later⟩⟩

theorem exists_forwardedFor_eq_ok {entries : List Value}
    (paired : ∀ entry ∈ entries, entry.IsOctetPair) :
    ∃ address, (listed entries).forwardedFor = .ok address := by
  obtain ⟨pairs, arePairs⟩ := exists_arePairs paired
  exact ⟨_, forwardedFor_of_hasPairs ⟨entries, rfl, arePairs⟩⟩

end Headers

namespace Scope

/-- The entries that a request is read from have their types, or are left out. -/
structure WellTyped (scope : Scope) : Prop where
  /-- The headers are pairs of octets, or absent. -/
  headers : ∀ raw, scope.find? "headers" = some raw → raw = .null ∨
    ∃ entries, raw.items? = some entries ∧ ∀ entry ∈ entries, entry.IsOctetPair
  /-- The path as it was sent is in octets, or absent. -/
  rawPath : ∀ raw, scope.find? "raw_path" = some raw → raw = .null ∨ ∃ octets, raw = .bytes octets
  /-- The path of the mounted app is a text. -/
  rootPath : ∀ raw, scope.find? "root_path" = some raw → ∃ text, raw = .str text
  /-- The path in it is a text. -/
  path : ∀ raw, scope.find? "path" = some raw → ∃ text, raw = .str text
  /-- The query is in octets. -/
  queryString : ∀ raw, scope.find? "query_string" = some raw → ∃ octets, raw = .bytes octets
  /-- The version is a text. -/
  httpVersion : ∀ raw, scope.find? "http_version" = some raw → ∃ text, raw = .str text
  /-- The peer is given by its host and what follows it, or absent. -/
  client : ∀ raw, scope.find? "client" = some raw → raw = .null ∨
    ∃ host rest, raw = .list (host :: rest) ∨ raw = .tuple (host :: rest)

/-- What holds of the entry of a name and of the default holds of what is read. -/
theorem getD_of {scope : Scope} {name : String} {fallback : Value} {Property : Value → Prop}
    (entry : ∀ raw, scope.find? name = some raw → Property raw) (otherwise : Property fallback) :
    Property (scope.getD name fallback) := by
  rw [getD]
  cases found : scope.find? name with
  | none => exact otherwise
  | some raw => exact entry raw found

namespace WellTyped

variable {scope : Scope}

theorem exists_headers (typed : scope.WellTyped) :
    ∃ entries, scope.headers = .ok (.listed entries) ∧ ∀ entry ∈ entries, entry.IsOctetPair := by
  have raw := getD_of typed.headers (Or.inl rfl)
  unfold Scope.headers
  generalize scope.getD "headers" .null = value at raw
  cases truthy : value.truthy with
  | false => exact ⟨[], by simp [truthy, Headers.empty], by simp⟩
  | true =>
      rcases raw with rfl | ⟨entries, items, paired⟩
      · cases truthy
      · exact ⟨entries, by simp [truthy, items], paired⟩

theorem exists_path (typed : scope.WellTyped) : ∃ text, scope.path = .ok (.str text) := by
  have raw := getD_of typed.rawPath (Or.inl rfl)
  obtain ⟨root, root_eq⟩ := getD_of typed.rootPath ⟨"", rfl⟩
  obtain ⟨inner, inner_eq⟩ := getD_of typed.path ⟨"", rfl⟩
  unfold Scope.path
  rw [root_eq, inner_eq]
  generalize scope.getD "raw_path" .null = value at raw
  cases truthy : value.truthy with
  | false => exact ⟨root ++ inner, by simp [truthy, Value.plus]⟩
  | true =>
      rcases raw with rfl | ⟨octets, rfl⟩
      · cases truthy
      · exact ⟨octets.latin, by simp [truthy, latinText]⟩

theorem exists_url (typed : scope.WellTyped) : ∃ text, scope.url = .ok (.str text) := by
  obtain ⟨path, path_eq⟩ := typed.exists_path
  obtain ⟨query, query_eq⟩ := getD_of typed.queryString ⟨[], rfl⟩
  unfold Scope.url
  rw [path_eq, query_eq]
  cases asked : (Value.bytes query).truthy with
  | false =>
      by_cases here : (Value.str path).truthy = true
      · exact ⟨path, by simp [asked, here]⟩
      · exact ⟨"/", by simp [asked, here]⟩
  | true =>
      simp only [asked, latinText, bind, Except.bind, ↓reduceIte]
      exact ⟨_, rfl⟩

theorem exists_httpVersion (typed : scope.WellTyped) :
    ∃ text, scope.httpVersion = .ok (.str text) := by
  obtain ⟨version, version_eq⟩ := getD_of typed.httpVersion ⟨"1.1", rfl⟩
  unfold Scope.httpVersion
  rw [version_eq]
  by_cases minor : '.' ∈ version.toList
  · exact ⟨version, by simp [Value.holds, minor]⟩
  · exact ⟨version ++ ".0", by simp [Value.holds, minor, Value.text]⟩

theorem exists_peerAddress (typed : scope.WellTyped) :
    ∃ address, scope.peerAddress = .ok address := by
  have raw := getD_of typed.client (Or.inl rfl)
  unfold Scope.peerAddress
  generalize scope.getD "client" .null = value at raw
  rcases raw with rfl | ⟨host, rest, rfl | rfl⟩
  · exact ⟨.null, rfl⟩
  · exact ⟨host, rfl⟩
  · exact ⟨host, rfl⟩

end WellTyped
end Scope

/-- A request is read from every scope whose entries have their types. -/
theorem Request.ofScope_of_wellTyped {scope : Scope} (typed : scope.WellTyped) (trustProxy : Bool) :
    ∃ request, ofScope scope trustProxy = .ok request := by
  obtain ⟨entries, headers, paired⟩ := typed.exists_headers
  obtain ⟨url, url_eq⟩ := typed.exists_url
  obtain ⟨version, version_eq⟩ := typed.exists_httpVersion
  obtain ⟨peer, peer_eq⟩ := typed.exists_peerAddress
  obtain ⟨address, reported⟩ := Headers.exists_forwardedFor_eq_ok paired
  cases trustProxy with
  | false =>
      simp only [ofScope, headers, url_eq, version_eq, peer_eq]
      exact ⟨_, rfl⟩
  | true =>
      simp only [ofScope, headers, url_eq, version_eq, peer_eq, bind, Except.bind, reported,
        ↓reduceIte]
      exact ⟨_, rfl⟩

end RequestLog
