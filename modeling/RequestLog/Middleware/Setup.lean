import RequestLog.Middleware

/-!
# Setting up a middleware

A middleware is set up from settings, a registry and a sink.  A list of tokens is registered as a
format under the first reserved name that is free; the name of a format has to be registered.
Without a sink the records go to the access logger that the settings describe.
-/

namespace RequestLog
namespace Middleware

variable {σ : Type}

/-- A sink and the logger that belongs to it, if any. -/
structure Outlet (σ : Type) where
  /-- What takes the records. -/
  sink : Sink σ
  /-- Name of its logger. -/
  logger : Option String

/-- The name under which the first list of tokens is registered. -/
def reservedName : String := "accesslog"

/-- The reserved names: the first one plain, the others numbered from two. -/
def reservedNameAt (number : Nat) : String :=
  if number ≤ 1 then reservedName else reservedName ++ ":" ++ toString number

/-- The first reserved name from a number on that is not taken; at most `fuel` are skipped. -/
def freeNameFrom (taken : List String) : Nat → Nat → String
  | 0, number => reservedNameAt number
  | fuel + 1, number =>
      if taken.contains (reservedNameAt number) then freeNameFrom taken fuel (number + 1)
      else reservedNameAt number

/-- The first reserved name that is free. -/
def freeName (registry : Registry σ) : String :=
  freeNameFrom registry.formats.names registry.formats.length 1

/-- The name of the chosen format, and the registry with the format in it. -/
def resolveFormat (registry : Registry σ) (choice : Settings.FormatChoice) :
    Registry σ × Outcome String :=
  match choice with
  | .named name =>
      if registry.formats.has name then (registry, .ok name)
      else (registry, .error (.misconfigured (.unknownFormat name registry.formats.names)))
  | .listed tokens =>
      let name := freeName registry
      match registry.registerFormat (.str name) (.list (tokens.map .str)) with
      | .ok registry => (registry, .ok name)
      | .error refusal => (registry, .error (.misconfigured (.invalidFormat refusal)))

/-- The outlet for records: the one given, else the access logger of the settings. -/
def resolveOutlet (outlet : Option (Outlet σ)) (settings : Settings) (world : World σ) :
    Outcome (Outlet σ) × World σ :=
  match outlet with
  | some outlet => (.ok outlet, world)
  | none =>
      match world.logs.configure settings with
      | (logs, .error failure) => (.error failure, { world with logs := logs })
      | (logs, .ok ()) =>
          let name := Logging.Loggers.nameOf settings.loggerName
          (.ok ⟨Sink.toLogger name, some name⟩, { world with logs := logs })

/-- Set up a middleware.  A format that was registered stays registered even if the access logger
cannot be configured. -/
def create (registry : Registry σ) (outlet : Option (Outlet σ)) (settings : Settings)
    (world : World σ) : Outcome (Middleware σ) × Registry σ × World σ :=
  match resolveFormat registry settings.format with
  | (registry, .error failure) => (.error failure, registry, world)
  | (registry, .ok formatName) =>
      match resolveOutlet outlet settings world with
      | (.error failure, world) => (.error failure, registry, world)
      | (.ok outlet, world) =>
          (.ok {
            registry := registry
            formatName := formatName
            trustProxy := settings.trustProxy
            handleExceptions := settings.handleExceptions
            sink := outlet.sink
            logger := outlet.logger.getD ownLogger }, registry, world)

/-- Names that are no options of a middleware. -/
def ownArguments : List String :=
  ["self", "app", "registry", "sink", "settings"]

/-- The settings of a middleware: those given as a whole, or those of options, but not both. -/
def settingsOf (given : Option Settings) (options : Settings.Options)
    (environment : Settings.Environment) : Outcome Settings :=
  match options.find? fun option => ownArguments.contains option.1 with
  | some option => .error (Fault.reservedOption option.1)
  | none =>
      match given with
      | some settings =>
          if options.isEmpty then .ok settings else .error (.misconfigured .settingsAndOptions)
      | none => Settings.ofOptions options environment

/-- Set up a middleware from what it is given: nothing is done unless the settings are in order. -/
def setUp (registry : Registry σ) (outlet : Option (Outlet σ)) (given : Option Settings)
    (options : Settings.Options) (environment : Settings.Environment) (world : World σ) :
    Outcome (Middleware σ) × Registry σ × World σ :=
  match settingsOf given options environment with
  | .error failure => (.error failure, registry, world)
  | .ok settings => create registry outlet settings world

end Middleware
end RequestLog
