import RequestLog.Exchange.Response
import RequestLog.Failure

/-!
# Programs and servers

An app is a program that talks to a server: it sends messages and is told whether the server took
them, asks for messages, pauses, and finally returns or fails.  It may also look at the world and
change it.  A program is a tree of such steps, so that every run of it is finite; what a step yields
decides how the program goes on.  A server answers each message by what it knows alone and notes in
the world what passed.
-/

namespace RequestLog

/-- A program over a world. -/
inductive Program (W : Type) where
  /-- Return or fail. -/
  | finish (ending : Outcome Unit)
  /-- Send a message. -/
  | send (message : Message) (next : Outcome Unit → Program W)
  /-- Ask for a message. -/
  | receive (next : Message → Program W)
  /-- Pause; the program may be resumed with a failure. -/
  | pause (next : Outcome Unit → Program W)
  /-- Change the world, and go on as the world before the change decides. -/
  | effect (change : W → W) (next : W → Program W)

/-- The far side of the messages of a call, with what it knows. -/
structure Server (S W : Type) where
  /-- The answer to a message. -/
  answer : S → Message → Outcome Unit × S
  /-- The message that is handed out when one is asked for. -/
  offer : Message
  /-- Note a message and the answer to it. -/
  noteSent : Message → Outcome Unit → W → W
  /-- Note a message that was handed out. -/
  noteReceived : Message → W → W

namespace Program

variable {S W : Type}

/-- Carry out a step on the world and go on with what it yields. -/
def perform {α : Type} (step : W → α × W) (next : α → Program W) : Program W :=
  .effect (fun world => (step world).2) fun world => next (step world).1

/-- How far a program has come. -/
inductive Progress (W : Type) where
  /-- The program has returned or failed. -/
  | ended (ending : Outcome Unit)
  /-- The program waits to be resumed. -/
  | paused (next : Outcome Unit → Program W)

/-- Run a program to its next pause or its end. -/
def advance (server : Server S W) : Program W → S → W → Progress W × S × W
  | .finish ending, known, world => (.ended ending, known, world)
  | .send message next, known, world =>
      let (result, known) := server.answer known message
      advance server (next result) known (server.noteSent message result world)
  | .receive next, known, world =>
      advance server (next server.offer) known (server.noteReceived server.offer world)
  | .pause next, known, world => (.paused next, known, world)
  | .effect change next, known, world => advance server (next world) known (change world)

/-- Run a program to its end; every pause is resumed at once. -/
def run (server : Server S W) : Program W → S → W → Outcome Unit × S × W
  | .finish ending, known, world => (ending, known, world)
  | .send message next, known, world =>
      let (result, known) := server.answer known message
      run server (next result) known (server.noteSent message result world)
  | .receive next, known, world =>
      run server (next server.offer) known (server.noteReceived server.offer world)
  | .pause next, known, world => run server (next (.ok ())) known world
  | .effect change next, known, world => run server (next world) known (change world)

end Program
end RequestLog
