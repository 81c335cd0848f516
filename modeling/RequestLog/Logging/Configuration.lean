import RequestLog.Logging.Logger

/-!
# Configuring an access logger

An access logger has a handler for the access file, one for the error file and, if wanted, one for
the console.  A name is configured once; with the same handler settings it is returned as it is,
with others it is refused.  The folder and the files are made at once, and when one of them cannot
be made the handlers attached before stay attached while the name counts as not configured.
-/

namespace RequestLog
namespace Logging

/-- The layout of log files. -/
def fileLayout (settings : Settings) : Layout :=
  if settings.jsonLogs then .json else .text false

/-- The layout of the console. -/
def consoleLayout (settings : Settings) : Layout :=
  if settings.consoleJson then .json else .text settings.consoleColor

/-- The path of a log file. -/
def logPath (settings : Settings) (name : String) : FilePath :=
  FilePath.normalize (FilePath.parts (FilePath.join settings.folder name))

/-- The handler of the console. -/
def consoleHandler (settings : Settings) : Handler :=
  ⟨settings.consoleLevel.level, consoleLayout settings, .console⟩

/-- The level of a configured logger: the least level of its handlers' settings. -/
def loggerLevel (settings : Settings) : Int :=
  min (min settings.accessLevel.level settings.errorLevel.level) settings.consoleLevel.level

namespace System

/-- Attach a handler to the logger of a name. -/
def attach (system : System) (name : String) (handler : Handler) : System :=
  { system with
    loggers := system.loggers.modify name fun logger =>
      { logger with handlers := logger.handlers ++ [handler] } }

/-- Use another state of the disk. -/
def withDisk (system : System) (disk : Disk) : System :=
  { system with output := { system.output with disk := disk } }

/-- Open a log file and attach its handler. -/
def attachFile (system : System) (settings : Settings) (name : String) (severity : Severity) :
    System × Outcome Unit :=
  match FileTarget.create system.output.disk (logPath settings name) settings.maxFileSize
      settings.maxFiles with
  | .error fault => (system, .error fault)
  | .ok (target, disk) =>
      ((system.withDisk disk).attach settings.loggerName
        ⟨severity.level, fileLayout settings, .file target⟩, .ok ())

/-- Make the folder and attach the handlers of both files. -/
def attachFiles (system : System) (settings : Settings) : System × Outcome Unit :=
  match system.output.disk.makeFolders settings.folder with
  | (disk, .error fault) => (system.withDisk disk, .error fault)
  | (disk, .ok ()) =>
      match (system.withDisk disk).attachFile settings settings.accessFile settings.accessLevel with
      | (system, .error failure) => (system, .error failure)
      | (system, .ok ()) => system.attachFile settings settings.errorFile settings.errorLevel

/-- Attach the console, set the level, keep entries from the loggers above, and note the name. -/
def complete (system : System) (settings : Settings) : System :=
  let name := settings.loggerName
  let system := if settings.console then system.attach name (consoleHandler settings) else system
  { system with
    loggers := system.loggers.modify name fun logger =>
      { logger with level := loggerLevel settings, propagate := false }
    configured := system.configured.put name settings.handlerKey }

/-- Give the logger of the settings its handlers. -/
def configure (system : System) (settings : Settings) : System × Outcome Unit :=
  let system := { system with loggers := system.loggers.touch settings.loggerName }
  match system.configured.find? settings.loggerName with
  | some key =>
      if key = settings.handlerKey then (system, .ok ())
      else (system, .error (.misconfigured (.loggerTaken settings.loggerName)))
  | none =>
      match system.attachFiles settings with
      | (system, .error failure) => (system, .error failure)
      | (system, .ok ()) => (system.complete settings, .ok ())

end System
end Logging
end RequestLog
