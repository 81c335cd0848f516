import RequestLog.Logging.Handler
import RequestLog.Settings

/-!
# Loggers

Loggers have names with dots in them; a logger is below the logger whose name ends at one of its
dots, and all are below the root.  An entry passes if it reaches the level of the nearest logger
upwards that has one, and then goes to the handlers of its logger and of the loggers above, up to
the first that keeps its entries to itself.
-/

namespace RequestLog
namespace Logging

/-- One logger. -/
structure Logger where
  /-- Least level of its entries; zero leaves that to the loggers above. -/
  level : Int
  /-- Its entries go on to the handlers of the logger above. -/
  propagate : Bool
  /-- Its handlers, in the order in which they were attached. -/
  handlers : List Handler

namespace Logger

/-- A logger that nothing has been set for. -/
def plain : Logger :=
  ⟨0, true, []⟩

/-- A logger whose entries go into the journal. -/
def watched : Logger :=
  ⟨0, true, [Handler.watcher]⟩

end Logger

/-- Loggers by name. -/
abbrev Loggers := Catalog Logger

namespace Loggers

/-- The name of the root. -/
def rootName : String := "root"

/-- The root, from which warnings and worse pass, and the watched loggers. -/
def start (watched : List String) : Loggers :=
  (rootName, { Logger.plain with level := 30 }) :: watched.map fun name => (name, Logger.watched)

/-- The name that a logger is kept under; no name is the root's. -/
def nameOf (name : String) : String :=
  if name.isEmpty then rootName else name

/-- The names that end at a dot of a name, the longest first.  The name is given from its end, and
of several dots in a row every other one counts. -/
def namesAbove : List Char → List (List Char)
  | [] => []
  | '.' :: [] => []
  | '.' :: c :: rest => (c :: rest).reverse :: namesAbove rest
  | _ :: rest => namesAbove rest

/-- The nearest logger above a name, if there is one below the root. -/
def above? (loggers : Loggers) (name : String) : Option String :=
  ((namesAbove name.toList.reverse).map String.ofList).find? fun candidate =>
    Catalog.has loggers candidate

/-- A name and the names of the loggers above it, at most `fuel` of them, and the root. -/
def pathUp (loggers : Loggers) : Nat → String → List String
  | 0, _ => [rootName]
  | fuel + 1, name =>
      if name = rootName then [rootName]
      else
        match loggers.above? name with
        | some parent => name :: pathUp loggers fuel parent
        | none => [name, rootName]

/-- A logger and the loggers above it. -/
def lineage (loggers : Loggers) (name : String) : List String :=
  loggers.pathUp (name.length + 1) (nameOf name)

/-- The logger of a name. -/
def get (loggers : Loggers) (name : String) : Logger :=
  (Catalog.find? loggers (nameOf name)).getD Logger.plain

/-- Make the logger of a name known. -/
def touch (loggers : Loggers) (name : String) : Loggers :=
  Catalog.put loggers (nameOf name) (loggers.get name)

/-- Change the logger of a name. -/
def modify (loggers : Loggers) (name : String) (change : Logger → Logger) : Loggers :=
  Catalog.put loggers (nameOf name) (change (loggers.get name))

/-- The first level that is set. -/
def firstLevel (loggers : Loggers) : List String → Int
  | [] => 0
  | name :: rest =>
      if (loggers.get name).level = 0 then firstLevel loggers rest else (loggers.get name).level

/-- The least level of the entries of a logger. -/
def effectiveLevel (loggers : Loggers) (name : String) : Int :=
  loggers.firstLevel (loggers.lineage name)

/-- The loggers whose handlers an entry goes to: each one up to the first that does not
propagate. -/
def reached (loggers : Loggers) : List String → List String
  | [] => []
  | name :: rest => if (loggers.get name).propagate then name :: reached loggers rest else [name]

/-- An entry of a level passes a logger. -/
def isEnabled (loggers : Loggers) (name : String) (level : Int) : Bool :=
  0 < level && loggers.effectiveLevel name ≤ level

end Loggers

/-- Hand an entry to handlers, one after the other. -/
def handleAll (entry : Entry) : List Handler → Output → List Handler × Output
  | [], output => ([], output)
  | handler :: rest, output =>
      let (handler, output) := handler.handle entry output
      let (rest, output) := handleAll entry rest output
      (handler :: rest, output)

/-- Loggers, the settings that each configured name got its handlers from, and the output. -/
structure System where
  /-- Loggers by name. -/
  loggers : Loggers
  /-- What shaped the handlers of each configured name. -/
  configured : Catalog Settings.HandlerKey
  /-- Where lines end up. -/
  output : Output

namespace System

/-- Nothing is configured, and nothing has been written. -/
def start (watched : List String) : System :=
  ⟨Loggers.start watched, [], ⟨Disk.empty, "", []⟩⟩

/-- Hand an entry to the handlers of the named loggers. -/
def deliver (system : System) (entry : Entry) : List String → System
  | [] => system
  | name :: rest =>
      let logger := system.loggers.get name
      let (handlers, output) := handleAll entry logger.handlers system.output
      deliver
        { system with
          loggers := system.loggers.modify name fun logger => { logger with handlers := handlers }
          output := output } entry rest

/-- The loggers whose handlers an entry goes to; none if its logger does not let it pass. -/
def route (system : System) (entry : Entry) : List String :=
  if system.loggers.isEnabled entry.logger entry.level then
    system.loggers.reached (system.loggers.lineage entry.logger)
  else []

/-- Log an entry, if its logger lets it pass. -/
def log (system : System) (entry : Entry) : System :=
  let system := { system with loggers := system.loggers.touch entry.logger }
  system.deliver entry (system.route entry)

/-- The defect of the message of an entry that goes into the journal.  All other targets contain
such a defect. -/
def defect? (system : System) (entry : Entry) : Option Fault :=
  let system := { system with loggers := system.loggers.touch entry.logger }
  let handlers := (system.route entry).flatMap fun name => (system.loggers.get name).handlers
  match entry.message with
  | .ok _ => none
  | .error fault =>
      if handlers.any fun handler => handler.keepsJournal && handler.level ≤ entry.level then
        some fault
      else none

end System
end Logging
end RequestLog
