import RequestLog.Proofs.Exchange.Address

/-!
# The URL of a request

The URL is the path, and a query stands behind it after a question mark.  The path is the one that
was sent, or else that of the mounted app followed by the path in it; it makes no difference which
of the two it is if they are the same text.  A path that is empty is shown as a slash, but only
without a query (`Scope.url_of_no_query`): so a query is a suffix of the URL just if there is a
path.
-/

namespace RequestLog
namespace Scope

/-- The entries that the path is taken from: the path as it was sent, that of the mounted app and
the path in it.  What is left out is empty. -/
structure HasPath (scope : Scope) (sent : Octets) (root inner : String) : Prop where
  /-- The path as it was sent, in octets. -/
  sent : scope.getD "raw_path" .null = .bytes sent ∨ scope.getD "raw_path" .null = .null ∧ sent = []
  /-- The path of the mounted app. -/
  root : scope.getD "root_path" (.str "") = .str root
  /-- The path in the app. -/
  inner : scope.getD "path" (.str "") = .str inner

/-- The path that is shown: the one that was sent, if there is one. -/
def shownPath (sent : Octets) (root inner : String) : String :=
  if sent = [] then root ++ inner else sent.latin

theorem getD_put (scope : Scope) (name other : String) (value fallback : Value) :
    getD (Catalog.put scope name value) other fallback =
      if name = other then value else scope.getD other fallback := by
  rw [getD, Catalog.find?_put]
  split <;> rfl

theorem getD_without (scope : Scope) (name other : String) (fallback : Value) :
    getD (Catalog.without scope name) other fallback =
      if other = name then fallback else scope.getD other fallback := by
  rw [getD, Catalog.find?_without]
  split <;> rfl

/-- The scope with a query. -/
def withQuery (scope : Scope) (query : Octets) : Scope :=
  Catalog.put scope "query_string" (.bytes query)

/-- The scope without a query. -/
def withoutQuery (scope : Scope) : Scope :=
  Catalog.without scope "query_string"

/-- The scope with the path as it was sent. -/
def withSentPath (scope : Scope) (sent : Octets) : Scope :=
  Catalog.put scope "raw_path" (.bytes sent)

/-- The scope without the path as it was sent. -/
def withoutSentPath (scope : Scope) : Scope :=
  Catalog.without scope "raw_path"

/-- A path that was sent as it would be put together is shown like it. -/
theorem shownPath_of_latin {sent : Octets} {root inner : String}
    (same : sent.latin = root ++ inner) :
    shownPath sent root inner = root ++ inner := by
  rw [shownPath, same, ite_self]

section Path

variable {scope : Scope} {sent : Octets} {root inner : String}
    (typed : scope.HasPath sent root inner)

include typed

theorem HasPath.withQuery (query : Octets) :
    (scope.withQuery query).HasPath sent root inner := by
  constructor <;> rw [Scope.withQuery, getD_put, if_neg (by decide)]
  · exact typed.sent
  · exact typed.root
  · exact typed.inner

theorem HasPath.withoutQuery : scope.withoutQuery.HasPath sent root inner := by
  constructor <;> rw [Scope.withoutQuery, getD_without, if_neg (by decide)]
  · exact typed.sent
  · exact typed.root
  · exact typed.inner

theorem path_of_hasPath : scope.path = .ok (.str (shownPath sent root inner)) := by
  rw [path, typed.root, typed.inner, shownPath]
  rcases typed.sent with raw | ⟨raw, rfl⟩
  · cases sent with
    | nil => simp [raw, Value.truthy, Value.plus]
    | cons octet rest => simp [raw, Value.truthy, latinText]
  · simp [raw, Value.truthy, Value.plus]

/-- Without a query the URL is the path, or a slash if that is empty. -/
theorem url_of_no_query (unasked : scope.getD "query_string" (.bytes []) = .bytes []) :
    scope.url = .ok (.str (
      if shownPath sent root inner = "" then "/" else shownPath sent root inner)) := by
  rw [url, path_of_hasPath typed, unasked]
  by_cases nothing : shownPath sent root inner = "" <;>
    simp [bind, Except.bind, pure, Except.pure, Value.truthy, nothing]

/-- With a query the URL is the path, a question mark and the text of the query. -/
theorem url_of_query {query : Octets} (asked : scope.getD "query_string" (.bytes []) = .bytes query)
    (some_query : query ≠ []) :
    scope.url = .ok (.str (shownPath sent root inner ++ "?" ++ query.latin)) := by
  have truthy : (Value.bytes query).truthy = true := by simpa [Value.truthy] using some_query
  rw [url, path_of_hasPath typed, asked]
  simp only [bind, Except.bind, pure, Except.pure, truthy, ↓reduceIte, latinText, Value.text]

end Path

/-- The path that was sent makes no difference to the URL if it is the one that is put together
without it. -/
theorem url_withSentPath {scope : Scope} {sent : Octets} {root inner : String}
    (typed : scope.HasPath sent root inner) {octets : Octets}
    (same : octets.latin = root ++ inner) :
    (scope.withSentPath octets).url = scope.withoutSentPath.url := by
  have sent_path : (scope.withSentPath octets).HasPath octets root inner :=
    ⟨Or.inl (getD_put ..), (getD_put ..).trans typed.root, (getD_put ..).trans typed.inner⟩
  have unsent_path : scope.withoutSentPath.HasPath [] root inner :=
    ⟨Or.inr ⟨getD_without .., rfl⟩, (getD_without ..).trans typed.root,
      (getD_without ..).trans typed.inner⟩
  have built : shownPath [] root inner = root ++ inner := rfl
  rw [url, url, path_of_hasPath sent_path, path_of_hasPath unsent_path, shownPath_of_latin same,
    built, withSentPath, withoutSentPath, getD_put, getD_without]
  rfl

end Scope

namespace Request

variable {scope : Scope} {sent : Octets} {root inner : String}

/-- The URL of a request is the path with the query behind a question mark; without a query it is
the path, or a slash if that is empty.  It is never empty, and a query is a suffix of it just if the
path is not empty.  A path that was sent makes no difference if it is the one that is put together
without it.  The token `url` yields the URL that was read from the scope. -/
theorem query_follows_path (typed : scope.HasPath sent root inner) :
    (∃ url,
      (scope.withoutQuery.url = .ok (.str url) ∧
        (scope.withQuery []).url = .ok (.str url) ∧ url ≠ "" ∧
        url =
          if Scope.shownPath sent root inner = "" then "/"
          else Scope.shownPath sent root inner) ∧
      ∀ query : Octets, query ≠ [] → ∃ longer,
        (scope.withQuery query).url = .ok (.str longer) ∧ longer ≠ "" ∧
        longer = Scope.shownPath sent root inner ++ "?" ++ query.latin ∧
        (longer = url ++ "?" ++ query.latin ↔ Scope.shownPath sent root inner ≠ "")) ∧
    (∀ octets : Octets, octets.latin = root ++ inner →
      (scope.withSentPath octets).url = scope.withoutSentPath.url) ∧
    (∀ (read : Scope) (trustProxy : Bool),
      (read.WellTyped → ∃ request, ofScope read trustProxy = .ok request) ∧
        ∀ request, ofScope read trustProxy = .ok request → read.url = .ok request.url) ∧
    ∀ {σ : Type} {users : UserReader} {plan : Registry.Plan} {fresh : Registry σ},
      Registry.create users plan = .ok fresh →
      ∀ (history : List (Registration σ)) (view : Exchange.View) (state : σ),
        (fresh.after history).evaluate (.str "url") view state = (.ok view.request.url, state) := by
  let path := Scope.shownPath sent root inner
  refine ⟨⟨if path = "" then "/" else path, ⟨?_, ?_, ?_, rfl⟩, fun query some_query => ?_⟩,
    fun octets same => Scope.url_withSentPath typed same, fun read trustProxy => ?_, ?_⟩
  · exact Scope.url_of_no_query typed.withoutQuery (Scope.getD_without ..)
  · exact Scope.url_of_no_query (typed.withQuery []) (Scope.getD_put ..)
  · split
    · decide
    · assumption
  · have longer := Scope.url_of_query (typed.withQuery query) (Scope.getD_put ..) some_query
    refine ⟨path ++ "?" ++ query.latin, longer, by simp, rfl, ?_⟩
    by_cases nothing : path = "" <;> simp [path, nothing]
  · exact ⟨fun well_typed => ofScope_of_wellTyped well_typed trustProxy,
      fun request read_from => (ofScope_eq_ok read_from).2.1⟩
  · intro σ users plan fresh created history view state
    have builtin : (Extractor.builtins (σ := σ) users).find? "url" =
        some (.plain "url" "url" fun view => .ok view.request.url) := rfl
    exact Registry.evaluate_plain created history builtin view state

/-- An app is mounted under a path with a letter beyond ASCII, and neither the path as it was sent
nor a path in the app is given. -/
theorem query_follows_path_of_mounted_app :
    let scope : Scope := [("type", .str "http"), ("root_path", .str "/é"), ("raw_path", .bytes [])]
    scope.HasPath [] "/é" "" ∧ scope.withoutQuery.url = .ok (.str "/é") ∧
      (scope.withQuery (Octets.ofText "q=1")).url = .ok (.str "/é?q=1") ∧
      (scope.withSentPath [0x2F, 0xE9]).url = scope.withoutSentPath.url := by
  intro scope
  have typed : scope.HasPath [] "/é" "" := ⟨Or.inl rfl, rfl, rfl⟩
  obtain ⟨⟨url, ⟨bare, -, -, shown⟩, asked⟩, sent, -⟩ := query_follows_path typed
  obtain ⟨longer, found, -, spelt, -⟩ := asked (Octets.ofText "q=1") (by decide)
  have path : url = "/é" := shown.trans (by decide +kernel)
  have whole : longer = "/é?q=1" := spelt.trans (by decide +kernel)
  exact ⟨typed, path ▸ bare, whole ▸ found, sent [0x2F, 0xE9] (by decide +kernel)⟩

/-- Where the path is empty, the query is no suffix of the URL: the slash is left out before it. -/
theorem query_of_empty_path :
    let scope : Scope := [("type", .str "http"), ("path", .str "")]
    let asked := scope.withQuery (Octets.ofText "q=1")
    scope.HasPath [] "" "" ∧ scope.url = .ok (.str "/") ∧ asked.url = .ok (.str "?q=1") ∧
      asked.url ≠ .ok (.str "/?q=1") := by
  intro scope asked
  have typed : scope.HasPath [] "" "" := ⟨Or.inr ⟨rfl, rfl⟩, rfl, rfl⟩
  have found : asked.url = .ok (.str "?q=1") := rfl
  refine ⟨typed, rfl, found, ?_⟩
  rw [found]
  simp

end Request
end RequestLog
