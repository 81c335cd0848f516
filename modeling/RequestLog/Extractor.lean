import RequestLog.Capacity
import RequestLog.Credentials
import RequestLog.Decimal.Reading
import RequestLog.Exchange.Response

/-!
# Extractors

An extractor draws one value out of an exchange: it gets the request, the response if there is one,
the arguments of its token and the present instant, and either yields a value or fails.  It may use
and change a state that all extractors share; the built-in ones do not.
-/

namespace RequestLog

/-- What an extractor looks at. -/
structure Exchange.View where
  /-- The request side. -/
  request : Request
  /-- The response side, if there is one. -/
  response : Option Response
  /-- The present instant. -/
  now : Instant

/-- A named way to draw a value out of an exchange. -/
structure Extractor (σ : Type) where
  /-- The name of the extractor itself, whatever it is registered under. -/
  name : String
  /-- Draw the value with the arguments of a token. -/
  run : Exchange.View → List String → σ → Outcome Value × σ

namespace Extractor

/-- An extractor that neither uses nor changes the state. -/
def stateless {σ : Type} (name : String)
    (draw : Exchange.View → List String → Outcome Value) : Extractor σ :=
  { name := name, run := fun view args state => (draw view args, state) }

/-- An extractor without arguments. -/
def plain {σ : Type} (name function : String) (draw : Exchange.View → Outcome Value) :
    Extractor σ :=
  stateless name fun view args =>
    if args.isEmpty then draw view
    else .error (Fault.tooManyArguments function 1 2 (2 + args.length))

/-- An extractor with one argument that may be left out. -/
def optional {σ : Type} (name : String) (least : Nat)
    (draw : Exchange.View → Option String → Outcome Value) : Extractor σ :=
  stateless name fun view args =>
    if args.length ≤ 1 then draw view args.head?
    else .error (Fault.tooManyArguments name least 3 (2 + args.length))

/-- An extractor with exactly one argument. -/
def required {σ : Type} (name argument : String)
    (draw : Exchange.View → String → Outcome Value) : Extractor σ :=
  stateless name fun view args =>
    match args with
    | [] => .error (Fault.missingArgument name argument)
    | [value] => draw view value
    | _ => .error (Fault.tooManyArguments name 3 3 (2 + args.length))

/-- A text that may be missing. -/
def textOrNull (text : Option String) : Value :=
  match text with
  | some text => .str text
  | none => .null

/-- A text found in headers as the outcome of an extractor. -/
def ofHeader (found : Except Fault (Option String)) : Outcome Value :=
  match found with
  | .ok text => .ok (textOrNull text)
  | .error fault => .error fault

/-- Most digits after the point that are counted. -/
def countedPlaces : Nat := 9223372036854775807

/-- Most digits after the point that are written. -/
def writtenPlaces : Nat := 2147483647

/-- A number with a given number of digits after the point. -/
def fixedText (x : Float) (places : Nat) : String :=
  match Decimal.Binary64.ofFloat x with
  | .nan => "nan"
  | .infinite negative => if negative then "-inf" else "inf"
  | .finite value =>
      String.ofList ((if value.negative then ['-'] else [])
        ++ Decimal.joinPoint (Decimal.fixedPlaces value places))

/-- A value with a given number of digits after the point; only numbers are written so. -/
def fixedValue (value : Value) (places : Nat) : Except Fault String :=
  if value.isNumber then do
    let x ← value.asFloat
    return fixedText x places
  else .error (.notWritable value.typeName)

/-- A number with a given number of digits after the point, if there is room for them. -/
def fixedTextIn (x : Float) (places : Nat) : Except Fault String :=
  match Decimal.Binary64.ofFloat x with
  | .finite _ => do
      ensureRoom places
      return fixedText x places
  | _ => .ok (fixedText x places)

/-- A number with as many digits after the point as a text says. -/
def fixedTextBy (x : Float) (places : String) : Outcome Value :=
  match Decimal.readInteger places with
  | .error fault => .error fault
  | .ok number =>
      if number < 0 then .error Fault.negativePlaces
      else if countedPlaces < number.toNat then .error Fault.excessivePlaces
      else if writtenPlaces < number.toNat then .error Fault.hugePlaces
      else
        match fixedTextIn x number.toNat with
        | .error fault => .error fault
        | .ok text => .ok (.str text)

/-- The stopwatch reading at the head of the response, absent before. -/
def headSeconds (view : Exchange.View) : Value :=
  match view.response with
  | some response => response.startSeconds
  | none => .null

/-- Milliseconds from the arrival of the request to the head of the response, once both are
stamped. -/
def elapsed (view : Exchange.View) : Except Fault (Option Float) :=
  match view.request.startSeconds, headSeconds view with
  | .null, _ => .ok none
  | _, .null => .ok none
  | began, ended => do
      let difference ← ended.minus began
      let seconds ← difference.asFloat
      return some (seconds * 1000)

/-- The time to the head of the response, in milliseconds, with three digits after the point unless
the argument says otherwise. -/
def responseTime (view : Exchange.View) (places : Option String) : Outcome Value :=
  match elapsed view, places with
  | .error fault, _ => .error fault
  | .ok none, _ => .ok .null
  | .ok (some time), none => .ok (.str (fixedText time 3))
  | .ok (some time), some places => fixedTextBy time places

/-- The present date in the sortable or the web form; the web form is the default. -/
def date (view : Exchange.View) (form : Option String) : Outcome Value :=
  match form.getD "web" with
  | "iso" => .ok (.str view.now.isoText)
  | "web" => .ok (.str view.now.webText)
  | "" => .ok (.str view.now.webText)
  | _ => .ok .null

/-- The status, once the head of the response has been sent. -/
def status (view : Exchange.View) : Outcome Value :=
  match view.response with
  | none => .ok .null
  | some response =>
      if !response.headersSent then .ok .null
      else
        match response.status with
        | .null => .ok .null
        | status => .ok (.str status.text)

/-- The value of a request header. -/
def ownHeader (name : String) (view : Exchange.View) : Outcome Value :=
  match view.request.headers.get name with
  | .ok found => .ok found
  | .error fault => .error fault

/-- The referring page, under either spelling of the header. -/
def referrer (view : Exchange.View) : Outcome Value :=
  match ownHeader "referer" view with
  | .error failure => .error failure
  | .ok found => if found.truthy then .ok found else ownHeader "referrer" view

/-- The name of the user. -/
def remoteUser (users : UserReader) (view : Exchange.View) : Outcome Value :=
  match users view.request with
  | .error failure => .error failure
  | .ok name => .ok (name.getD .null)

/-- All values of a request header. -/
def requestHeader (view : Exchange.View) (name : String) : Outcome Value :=
  ofHeader (view.request.headers.joined name)

/-- All values of a response header, once the head of the response has been sent. -/
def responseHeader (view : Exchange.View) (name : String) : Outcome Value :=
  match view.response with
  | none => .ok .null
  | some response =>
      if response.headersSent then ofHeader (response.headers.joined name) else .ok .null

/-- The built-in extractors by key. -/
def builtins {σ : Type} (users : UserReader) : Catalog (Extractor σ) :=
  [("url", plain "url" "url" fun view => .ok view.request.url),
    ("method", plain "method" "method" fun view => .ok view.request.method),
    ("response-time", optional "response_time" 2 responseTime),
    ("date", optional "date" 1 date),
    ("status", plain "status" "status" status),
    ("referrer", plain "referrer" "referrer" referrer),
    ("remote-addr", plain "remote_addr" "remote_addr" fun view => .ok view.request.address),
    ("remote-user",
      plain "remote_user" "make_remote_user.<locals>.remote_user" (remoteUser users)),
    ("http-version", plain "http_version" "http_version" fun view => .ok view.request.httpVersion),
    ("user-agent", plain "user_agent" "user_agent" (ownHeader "user-agent")),
    ("req", required "req_header" "field" requestHeader),
    ("res", required "res_header" "field" responseHeader)]

end Extractor
end RequestLog
