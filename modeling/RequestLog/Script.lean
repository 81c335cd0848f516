import RequestLog.Middleware

/-!
# Scripted apps and calls

A script is a list of actions; it makes an app whose every call does the same.  Calls of scripted
apps can be carried out in turns: each one runs to its next pause, where it is resumed or made to
fail.
-/

namespace RequestLog

/-- One action of a scripted app. -/
inductive Action where
  /-- Send a message; a refusal is a failure of the app. -/
  | send (message : Message)
  /-- Send a message; an ordinary refusal is caught. -/
  | trySend (message : Message)
  /-- Ask for a message. -/
  | receive
  /-- Pause. -/
  | pause
  /-- Fail. -/
  | raise (failure : Failure)

/-- A scripted app. -/
abbrev Script := List Action

namespace Script

variable {σ : Type}

/-- The program of a script in a call. -/
def program (call : Nat) : Script → Program (World σ)
  | [] => .finish (.ok ())
  | .send message :: rest =>
      .send message fun result =>
        match result with
        | .ok () => program call rest
        | .error failure => .finish (.error failure)
  | .trySend message :: rest =>
      .send message fun result =>
        match result with
        | .ok () => program call rest
        | .error failure =>
            if failure.isOrdinary then
              .effect (fun world => world.note (.caught call failure)) fun _ => program call rest
            else .finish (.error failure)
  | .receive :: rest => .receive fun _ => program call rest
  | .pause :: rest =>
      .pause fun result =>
        match result with
        | .ok () => program call rest
        | .error failure => .finish (.error failure)
  | .raise failure :: _ => .finish (.error failure)

end Script

/-- A server that refuses some messages of a call, by their number, and cannot read a message
without a type. -/
def Server.refusing {σ : Type} (call : Nat) (refused : List Int) (failure : Failure) :
    Server Nat (World σ) :=
  { answer := fun count message =>
      (if message.type?.isNone then .error (Fault.missingEntry (.str "type"))
        else if refused.contains (count : Int) then .error failure
        else .ok (), count + 1)
    offer := [("type", .str "http.request")]
    noteSent := fun message result world =>
      if message.type?.isNone then world
      else
        match result with
        | .ok () => world.note (.sent call message)
        | .error _ => world.note (.refused call message)
    noteReceived := fun message world => world.note (.received call message) }

/-- Where a call stands. -/
inductive Position (W : Type) where
  /-- The call has not begun. -/
  | ready (program : Program W)
  /-- The call waits to be resumed. -/
  | paused (next : Outcome Unit → Program W)
  /-- The call is over. -/
  | ended (ending : Outcome Unit)

/-- A call: its server, what the server knows, and where the call stands. -/
structure Call (S W : Type) where
  /-- The far side. -/
  server : Server S W
  /-- What the far side knows. -/
  known : S
  /-- Where the call stands. -/
  position : Position W

namespace Call

variable {S W : Type}

/-- Run a program of a call to its next pause or its end. -/
def go (call : Call S W) (program : Program W) (world : W) : Call S W × W :=
  match program.advance call.server call.known world with
  | (.ended ending, known, world) =>
      ({ call with known := known, position := .ended ending }, world)
  | (.paused next, known, world) => ({ call with known := known, position := .paused next }, world)

/-- Run a call to its next pause or its end. -/
def step (call : Call S W) (world : W) : Call S W × W :=
  match call.position with
  | .ready program => call.go program world
  | .paused next => call.go (next (.ok ())) world
  | .ended _ => (call, world)

/-- Make a call fail where it stands.  A call that has not begun is over at once. -/
def interrupt (call : Call S W) (failure : Failure) (world : W) : Call S W × W :=
  match call.position with
  | .ready _ => ({ call with position := .ended (.error failure) }, world)
  | .paused next => call.go (next (.error failure)) world
  | .ended _ => (call, world)

/-- Run a call to its end. -/
def toEnd (call : Call S W) (world : W) : Outcome Unit × W :=
  match call.position with
  | .ended ending => (ending, world)
  | .ready program =>
      let (ending, _, world) := program.run call.server call.known world
      (ending, world)
  | .paused next =>
      let (ending, _, world) := (next (.ok ())).run call.server call.known world
      (ending, world)

end Call

/-- A turn in a schedule: the number of a call, and the failure that it is made to fail with. -/
structure Turn where
  /-- Which call. -/
  call : Nat
  /-- Resume it normally, or make it fail. -/
  failure : Option Failure

/-- Carry out one turn. -/
def Turn.play {S W : Type} (turn : Turn) (calls : List (Call S W)) (world : W) :
    List (Call S W) × W :=
  match calls[turn.call]? with
  | none => (calls, world)
  | some call =>
      let (call, world) :=
        match turn.failure with
        | none => call.step world
        | some failure => call.interrupt failure world
      (calls.set turn.call call, world)

/-- Carry out turns in order. -/
def playAll {S W : Type} : List Turn → List (Call S W) → W → List (Call S W) × W
  | [], calls, world => (calls, world)
  | turn :: rest, calls, world =>
      let (calls, world) := turn.play calls world
      playAll rest calls world

/-- Run calls to their ends, one after the other. -/
def endAll {S W : Type} : List (Call S W) → W → List (Outcome Unit) × W
  | [], world => ([], world)
  | call :: rest, world =>
      let (ending, world) := call.toEnd world
      let (others, world) := endAll rest world
      (ending :: others, world)

end RequestLog
