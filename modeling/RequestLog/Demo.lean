import RequestLog.Middleware.Setup

/-!
# A small app to try the middleware with

The app has five routes, each with one response.  The route of the front page also logs the address
of its client, through the same logger as the access records.  Every other path is not found, and
every other method than GET is not allowed.
-/

namespace RequestLog
namespace Demo

variable {σ : Type}

/-- A whole response. -/
structure Reply where
  /-- Status. -/
  status : Int
  /-- Type of the content. -/
  contentType : String
  /-- Body. -/
  body : String
  /-- Further headers, which come first. -/
  headers : List (String × String)

/-- A page. -/
def html (body : String) : Reply :=
  ⟨200, "text/html; charset=utf-8", body, []⟩

/-- A plain text with a status. -/
def plain (status : Int) (body : String) : Reply :=
  ⟨status, "text/plain; charset=utf-8", body, []⟩

/-- An error report with a status. -/
def report (status : Int) (detail : String) (headers : List (String × String)) : Reply :=
  ⟨status, "application/json", "\x7b\"detail\":\"" ++ detail ++ "\"\x7d", headers⟩

/-- The front page. -/
def frontPage : Reply :=
  html "<h3>Hello from accesslog</h3>"

/-- The routes and their replies. -/
def routes : List (String × Reply) :=
  [("/", frontPage),
    ("/server-error", plain 500 "Ooops..."),
    ("/client-error", plain 404 "Have you tried at / ?"),
    ("/unusual-code", plain 305 "I see you..."),
    ("/invalid-code", plain 999 "Sprechen sie jiberish?")]

/-- An entry that the scope of a call has to have. -/
def entry (scope : Scope) (name : String) : Except Fault Value :=
  match scope.find? name with
  | some value => .ok value
  | none => .error (Fault.missingEntry (.str name))

/-- The path below the mounting point of the app. -/
def routePath (scope : Scope) : Except Fault String := do
  let root := scope.getD "root_path" (.str "")
  match ← entry scope "path" with
  | .str path =>
      if !root.truthy then .ok path
      else
        match root with
        | .str root => .ok (below root path)
        | other => .error (.notBeginning other.typeName)
  | other =>
      .error (if root.truthy then .noAttribute other.typeName "startswith"
        else .notMatchable other.typeName)
where
  /-- The part of a path below a mounting point that it lies at or under. -/
  below (root path : String) : String :=
    let rest := path.toList.drop root.length
    if path.startsWith root && (rest.isEmpty || rest.head? = some '/') then String.ofList rest
    else path

/-- The path with which routes are compared; a single line feed at its end does not matter. -/
def comparedPath (path : String) : String :=
  match path.toList.reverse with
  | '\n' :: rest => String.ofList rest.reverse
  | _ => path

/-- The texts of the cookie headers of a call.  A route reads them before it replies. -/
def cookies (scope : Scope) : Except Fault (List String) := do
  let raw ← entry scope "headers"
  match raw.items? with
  | some entries => (Headers.listed entries).all "cookie"
  | none => .error (.notIterable raw.typeName)

/-- What a call leads to. -/
inductive Destination where
  /-- The route of the front page. -/
  | frontPage
  /-- Any other reply. -/
  | reply (reply : Reply)

/-- Where a route leads to, given its path and reply: the method has to be the one that it takes. -/
def enter (scope : Scope) (path : String) (found : Reply) : Except Fault Destination := do
  let method ← entry scope "method"
  match method.unhashable? with
  | some type => .error (.unhashable type)
  | none =>
      if !method.isText "GET" then
        return .reply (report 405 "Method Not Allowed" [("allow", "GET")])
      else
        let _ ← cookies scope
        return if path = "/" then .frontPage else .reply found

/-- Find where a call leads to. -/
def destination (scope : Scope) : Except Fault Destination := do
  let path := comparedPath (← routePath scope)
  match routes.lookup path with
  | none => return .reply (report 404 "Not Found" [])
  | some found => enter scope path found

/-- A header of a reply. -/
def header (name value : String) : Value :=
  .tuple [.bytes (Octets.ofText name), .bytes (Octets.ofText value)]

namespace Reply

/-- The headers of a reply. -/
def headerList (reply : Reply) : List Value :=
  reply.headers.map (fun entry => header entry.1 entry.2)
    ++ [header "content-length" (toString reply.body.utf8ByteSize),
      header "content-type" reply.contentType]

/-- The message that begins a reply. -/
def head (reply : Reply) : Message :=
  [("type", .str "http.response.start"), ("status", .int reply.status),
    ("headers", .list reply.headerList)]

/-- The message with the body of a reply. -/
def bodyMessage (reply : Reply) : Message :=
  [("type", .str "http.response.body"), ("body", .bytes (Octets.ofText reply.body))]

/-- Send a reply. -/
def program (reply : Reply) : Program (World σ) :=
  .send reply.head fun result =>
    match result with
    | .error failure => .finish (.error failure)
    | .ok () => .send reply.bodyMessage .finish

end Reply

/-- Log the address of the client. -/
def greet (logger : String) (request : Request) (world : World σ) : World σ :=
  world.log logger 10 (.str "Hello from %s") [request.address] none none

/-- The app; the front page logs through the named logger. -/
def app (logger : String) : App (World σ) := fun scope =>
  match destination scope with
  | .error fault => .finish (.error fault)
  | .ok (.reply reply) => reply.program
  | .ok .frontPage =>
      match Request.ofScope scope false with
      | .error fault => .finish (.error fault)
      | .ok request => .effect (greet logger request) fun _ => frontPage.program

/-- Names that are no options of the app. -/
def ownArguments : List String :=
  ["registry", "sink", "settings"]

/-- The settings of the app: those given as a whole, or else those of options. -/
def settingsOf (given : Option Settings) (options : Settings.Options) : Outcome Settings :=
  match options.find? fun option => ownArguments.contains option.1 with
  | some option => .error (Fault.reservedOption option.1)
  | none =>
      match given with
      | some settings => .ok settings
      | none => Settings.ofOptions options []

/-- The logger of the app: that of the outlet, else the one that the settings name. -/
def loggerName (outlet : Option (Middleware.Outlet σ)) (settings : Settings) : String :=
  match outlet.bind (·.logger) with
  | some name => name
  | none => Logging.Loggers.nameOf settings.loggerName

/-- What a server says of a call if it is not told otherwise.  It always has to be told the path. -/
def scopeDefaults : Scope :=
  [("type", .str "http"), ("method", .str "GET"), ("http_version", .str "1.1"),
    ("query_string", .bytes []), ("headers", .list []),
    ("client", .list [.str "testclient", .int 50000])]

/-- A scope with the defaults for what is not given. -/
def completeScope (scope : Scope) : Scope :=
  scope.foldl (fun built entry => built.put entry.1 entry.2) scopeDefaults

/-- A server that takes every message and keeps it. -/
def collector : Server (List Message) (World σ) :=
  { answer := fun taken message => (.ok (), taken ++ [message])
    offer := [("type", .str "http.request")]
    noteSent := fun _ _ world => world
    noteReceived := fun _ world => world }

/-- Answer one call through a middleware: the outcome and the messages sent. -/
def answer (middleware : Middleware σ) (logger : String) (scope : Scope) (world : World σ) :
    Outcome Unit × List Message × World σ :=
  (middleware.wrap (app logger) (completeScope scope)).run collector [] world

end Demo
end RequestLog
