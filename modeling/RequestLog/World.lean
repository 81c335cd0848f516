import RequestLog.Logging.Configuration

/-!
# The world of a middleware

A middleware reads the clock, runs extractors that may share a state, and logs.  The world holds all
three.  A sink takes a compiled record with its severity and may change the world or fail.
-/

namespace RequestLog

/-- Clock, state of the extractors, and logs. -/
structure World (σ : Type) where
  /-- The clock. -/
  clock : Clock
  /-- The state that extractors share. -/
  state : σ
  /-- Loggers and their output. -/
  logs : Logging.System

/-- What takes the records. -/
abbrev Sink (σ : Type) := Severity → Record → World σ → Outcome Unit × World σ

namespace World

variable {σ : Type}

/-- A world in which nothing has happened yet. -/
def start (now : Instant) (state : σ) (watched : List String) : World σ :=
  ⟨Clock.start now, state, Logging.System.start watched⟩

/-- The present time in seconds, as log entries are stamped. -/
def seconds (world : World σ) : Float :=
  Decimal.floatOfInt world.clock.now.micros / 1000000

/-- An entry made now. -/
def entry (world : World σ) (logger : String) (level : Int) (template : Value)
    (arguments : List Value) (access : Option Value) (failure : Option Failure) : Logging.Entry :=
  { logger := logger
    level := level
    template := template
    arguments := .ofList arguments
    access := access
    failure := failure
    created := .float world.seconds }

/-- Log an entry made now. -/
def log (world : World σ) (logger : String) (level : Int) (template : Value)
    (arguments : List Value) (access : Option Value) (failure : Option Failure) : World σ :=
  { world with
    logs := world.logs.log (world.entry logger level template arguments access failure) }

/-- Log a message made now, and report a defect of the message that the journal comes upon. -/
def logChecked (world : World σ) (logger : String) (level : Int) (template : Value)
    (arguments : List Value) : Option Fault × World σ :=
  let entry := world.entry logger level template arguments none none
  (world.logs.defect? entry, { world with logs := world.logs.log entry })

/-- Add to the journal. -/
def note (world : World σ) (event : Event) : World σ :=
  let output := world.logs.output
  { world with
    logs := { world.logs with output := { output with journal := output.journal ++ [event] } } }

/-- Take a stamp. -/
def stamp (world : World σ) : Stamp × World σ :=
  let (stamp, clock) := world.clock.stamp
  (stamp, { world with clock := clock })

/-- The logger of the registry. -/
def registryLogger : String := "accesslog.registry"

/-- Log the extractors that failed. -/
def complain (world : World σ) (complaints : List FieldFailure) : World σ :=
  complaints.foldl (fun world complaint =>
    world.log registryLogger 30 (.str "simplifier %s failed") [.str complaint.raw] none
      (some complaint.failure)) world

/-- What extractors see of an exchange now. -/
def view (world : World σ) (request : Request) (response : Option Response) : Exchange.View :=
  ⟨request, response, world.clock.now⟩

/-- Log the complaints of a compilation and keep the state it leaves behind. -/
def settle (world : World σ) (compilation : Compilation σ) : Outcome Record × World σ :=
  (compilation.outcome,
    { world with state := compilation.state }.complain compilation.complaints)

/-- Compile the format of a name. -/
def compile (world : World σ) (registry : Registry σ) (name : String) (request : Request)
    (response : Option Response) : Outcome Record × World σ :=
  world.settle (registry.compile name (world.view request response) world.state)

/-- The level for a severity label; an unknown label counts as an error. -/
def levelOf (severity : Value) : Except Fault Int :=
  match severity.unhashable? with
  | some type => .error (.unhashable type)
  | none =>
      match severity with
      | .str label => .ok ((Severity.ofLabel? label).getD .error).level
      | _ => .ok Severity.error.level

/-- Hand a record to an access logger. -/
def emit (world : World σ) (logger : String) (severity record : Value) :
    Outcome Unit × World σ :=
  match levelOf severity with
  | .error fault => (.error fault, world)
  | .ok level => (.ok (), world.log logger level (.str "request") [] (some record) none)

end World

namespace Sink

variable {σ : Type}

/-- The sink that logs records through an access logger. -/
def toLogger (logger : String) : Sink σ := fun severity record world =>
  world.emit logger (.str severity.label) (.ofFields record)

/-- The sink that keeps records in the journal. -/
def keeping (name : String) : Sink σ := fun severity record world =>
  (.ok (), world.note (.recorded name severity record))

/-- The sink that always fails. -/
def failing (failure : Failure) : Sink σ := fun _ _ world =>
  (.error failure, world)

end Sink
end RequestLog
