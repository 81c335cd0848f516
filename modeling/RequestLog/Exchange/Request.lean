import RequestLog.Catalog
import RequestLog.Clock
import RequestLog.Headers
import RequestLog.Text.Pieces
import RequestLog.Value.Access

/-!
# The request side of an exchange

A request is read from the scope that the server hands over.  The scope comes from outside, so its
entries may be of any type; what cannot be read is a failure.  On arrival the request is stamped and
keeps the address that it is known by from then on.
-/

namespace RequestLog

/-- What the server hands over with a call, by name. -/
abbrev Scope := Catalog Value

namespace Scope

/-- The entry of a name, or a default if the scope has none. -/
def getD (scope : Scope) (name : String) (fallback : Value) : Value :=
  (scope.find? name).getD fallback

/-- The raw header entries. -/
def headers (scope : Scope) : Except Fault Headers :=
  let raw := scope.getD "headers" .null
  if !raw.truthy then .ok Headers.empty
  else
    match raw.items? with
    | some entries => .ok (.listed entries)
    | none => .error (.notIterable raw.typeName)

/-- The Latin text of octets. -/
def latinText (value : Value) : Except Fault String :=
  match value with
  | .bytes octets => .ok octets.latin
  | other => .error (.noAttribute other.typeName "decode")

/-- The path as it was sent, or else the path of the mounted app followed by the path in it. -/
def path (scope : Scope) : Except Fault Value :=
  let raw := scope.getD "raw_path" .null
  if raw.truthy then return .str (← latinText raw)
  else (scope.getD "root_path" (.str "")).plus (scope.getD "path" (.str ""))

/-- The path with the query behind a question mark, if there is a query.  Without a query an empty
path is a slash. -/
def url (scope : Scope) : Except Fault Value := do
  let path ← scope.path
  let query := scope.getD "query_string" (.bytes [])
  if query.truthy then
    return .str (path.text ++ "?" ++ (← latinText query))
  else
    return if path.truthy then path else .str "/"

/-- The version with its minor number. -/
def httpVersion (scope : Scope) : Except Fault Value := do
  let version := scope.getD "http_version" (.str "1.1")
  return if ← version.holds '.' then version else .str (version.text ++ ".0")

/-- The host of the peer, if the server knows it. -/
def peerAddress (scope : Scope) : Except Fault Value :=
  let client := scope.getD "client" .null
  if client.truthy then client.firstItem else .ok .null

end Scope

/-- The first address that proxies say the request comes from. -/
def Headers.forwardedFor (headers : Headers) : Except Fault Value := do
  match ← headers.get "x-forwarded-for" with
  | .str text =>
      let hop := Text.trim (Text.halves ',' text.toList).1
      return if hop.isEmpty then .null else .str (String.ofList hop)
  | _ => return .null

/-- The request side of one exchange. -/
structure Request where
  /-- Header list. -/
  headers : Headers
  /-- Method. -/
  method : Value
  /-- Path and query. -/
  url : Value
  /-- Version of the protocol. -/
  httpVersion : Value
  /-- Host of the peer. -/
  peerAddress : Value
  /-- Address that proxies report, if they are trusted. -/
  reportedAddress : Value
  /-- Address that the request has been known by since its arrival. -/
  remoteAddress : Value
  /-- Stopwatch reading at arrival, in seconds; absent before. -/
  startSeconds : Value
  /-- Instant of arrival. -/
  startInstant : Option Instant

namespace Request

/-- Read a request from its scope. -/
def ofScope (scope : Scope) (trustProxy : Bool) : Except Fault Request := do
  let headers ← scope.headers
  let url ← scope.url
  let httpVersion ← scope.httpVersion
  let peerAddress ← scope.peerAddress
  let reportedAddress ← if trustProxy then headers.forwardedFor else .ok .null
  return {
    headers := headers
    method := scope.getD "method" (.str "")
    url := url
    httpVersion := httpVersion
    peerAddress := peerAddress
    reportedAddress := reportedAddress
    remoteAddress := .null
    startSeconds := .null
    startInstant := none }

/-- The address that the request is known by: as proxies report it, as it was on arrival, or the
host of the peer, whichever is there first. -/
def address (request : Request) : Value :=
  if request.reportedAddress.truthy then request.reportedAddress
  else if request.remoteAddress.truthy then request.remoteAddress
  else if request.peerAddress.truthy then request.peerAddress
  else .null

/-- Stamp the arrival of a request. -/
def arrived (request : Request) (stamp : Stamp) (address : Value) : Request :=
  { request with
    startSeconds := .float stamp.seconds
    startInstant := some stamp.instant
    remoteAddress := address }

end Request
end RequestLog
