import RequestLog.Logging.Configuration
import RequestLog.Proofs.Catalog

/-!
# What configuring a logger does

Configuring a name for the first time opens the log files and attaches the handlers of those that
can be opened (`configure_of_unconfigured`).  If all can, one logger has changed, in one step: its
handlers stand behind those it had, it has the least of their levels, and it keeps its entries to
itself (`configure_eq_ok`).  Whatever one of the attached handlers would write, the logger lets
pass.
-/

namespace RequestLog

theorem Severity.level_pos (severity : Severity) : 0 < severity.level := by
  cases severity <;> decide

namespace Logging
namespace Loggers

theorem nameOf_nameOf (name : String) : nameOf (nameOf name) = nameOf name := by
  cases empty : name.isEmpty with
  | false => simp [nameOf, empty]
  | true =>
      simp only [nameOf, empty, ↓reduceIte]
      rfl

theorem get_nameOf (loggers : Loggers) (name : String) :
    loggers.get (nameOf name) = loggers.get name := by
  rw [get, nameOf_nameOf, ← get]

theorem modify_nameOf (loggers : Loggers) (name : String) (change : Logger → Logger) :
    loggers.modify (nameOf name) change = loggers.modify name change := by
  rw [modify, nameOf_nameOf, get_nameOf, ← modify]

theorem get_modify_self (loggers : Loggers) (name : String) (change : Logger → Logger) :
    (loggers.modify name change).get name = change (loggers.get name) := by
  rw [get, modify, Catalog.find?_put, if_pos rfl, Option.getD_some]

theorem get_modify_of_ne (loggers : Loggers) {name other : String}
    (differs : nameOf name ≠ nameOf other) (change : Logger → Logger) :
    (loggers.modify name change).get other = loggers.get other := by
  rw [get, modify, Catalog.find?_put, if_neg differs, ← get]

theorem modify_modify (loggers : Loggers) (name : String) (first second : Logger → Logger) :
    (loggers.modify name first).modify name second =
      loggers.modify name fun logger => second (first logger) := by
  rw [modify, get_modify_self, modify, Catalog.put_put]
  rfl

theorem touch_eq_modify (loggers : Loggers) (name : String) :
    loggers.touch name = loggers.modify name id := rfl

theorem find?_modify (loggers : Loggers) (name : String) (change : Logger → Logger) :
    Catalog.find? (loggers.modify name change) (nameOf name) =
      some (change (loggers.get name)) := by
  rw [modify, Catalog.find?_put, if_pos rfl]

theorem find?_modify_of_ne (loggers : Loggers) {name other : String}
    (differs : nameOf name ≠ nameOf other) (change : Logger → Logger) :
    Catalog.find? (loggers.modify name change) (nameOf other) =
      Catalog.find? loggers (nameOf other) := by
  rw [modify, Catalog.find?_put, if_neg differs]

theorem get_congr (loggers : Loggers) {name other : String} (same : nameOf name = nameOf other) :
    loggers.get name = loggers.get other := by
  rw [get, same, ← get]

theorem get_modify (loggers : Loggers) (name other : String) (change : Logger → Logger) :
    (loggers.modify name change).get other =
      if nameOf name = nameOf other then change (loggers.get other) else loggers.get other := by
  split
  · next same => rw [← get_congr _ same, get_modify_self, get_congr _ same]
  · next differs => exact get_modify_of_ne _ differs change

theorem get_touch (loggers : Loggers) (name other : String) :
    (loggers.touch name).get other = loggers.get other := by
  rw [touch_eq_modify, get_modify, id, ite_self]

/-- A logger that is known stays as it is when its value does. -/
theorem modify_eq_self {loggers : Loggers} {name : String} {logger : Logger}
    (known : Catalog.find? loggers (nameOf name) = some logger) {change : Logger → Logger}
    (same : change logger = logger) : loggers.modify name change = loggers := by
  have got : loggers.get name = logger := by rw [get, known, Option.getD_some]
  rw [modify, got, same, Catalog.put_of_find? known]

end Loggers

/-- The handler of an open log file. -/
def fileHandler (settings : Settings) (name : String) (severity : Severity) (identity : Nat) :
    Handler :=
  ⟨severity.level, fileLayout settings,
    .file ⟨logPath settings name, some identity, settings.maxFileSize, settings.maxFiles⟩⟩

/-- The handlers that a logger is given: those of the two files, and that of the console if
wanted. -/
def attachedHandlers (settings : Settings) (access error : Nat) : List Handler :=
  [fileHandler settings settings.accessFile settings.accessLevel access,
    fileHandler settings settings.errorFile settings.errorLevel error] ++
    if settings.console then [consoleHandler settings] else []

theorem loggerLevel_pos (settings : Settings) : 0 < loggerLevel settings := by
  have access := settings.accessLevel.level_pos
  have error := settings.errorLevel.level_pos
  have console := settings.consoleLevel.level_pos
  simp only [loggerLevel]
  omega

/-- No attached handler is below the level of the logger. -/
theorem loggerLevel_le {settings : Settings} {access error : Nat} {handler : Handler}
    (attached : handler ∈ attachedHandlers settings access error) :
    loggerLevel settings ≤ handler.level := by
  have among : handler.level = settings.accessLevel.level ∨
      handler.level = settings.errorLevel.level ∨ handler.level = settings.consoleLevel.level := by
    simp only [attachedHandlers, List.cons_append, List.nil_append, List.mem_cons] at attached
    rcases attached with rfl | rfl | last
    · exact Or.inl rfl
    · exact Or.inr (Or.inl rfl)
    · split at last
      · rw [List.mem_singleton.mp last]
        exact Or.inr (Or.inr rfl)
      · cases last
  simp only [loggerLevel]
  omega

/-! ## Opening the log files -/

/-- How opening the log files of settings ends. -/
inductive Opening where
  /-- Both files are open. -/
  | complete (access error : Nat)
  /-- The access file is open, but the error file cannot be opened. -/
  | halfway (access : Nat) (fault : Fault)
  /-- The folder cannot be made, or the access file cannot be opened. -/
  | barred (fault : Fault)

namespace Opening

/-- Make the folder and open the access file, then the error file.  What was made before a fault
stays. -/
def ofDisk (disk : Disk) (settings : Settings) : Opening × Disk :=
  match disk.makeFolders settings.folder with
  | (disk, .error fault) => (.barred fault, disk)
  | (disk, .ok ()) =>
      match disk.openFile (logPath settings settings.accessFile) with
      | .error fault => (.barred fault, disk)
      | .ok (access, disk) =>
          match disk.openFile (logPath settings settings.errorFile) with
          | .error fault => (.halfway access fault, disk)
          | .ok (error, disk) => (.complete access error, disk)

/-- The handlers of the files that are open. -/
def handlers (settings : Settings) : Opening → List Handler
  | complete access error =>
      [fileHandler settings settings.accessFile settings.accessLevel access,
        fileHandler settings settings.errorFile settings.errorLevel error]
  | halfway access _ => [fileHandler settings settings.accessFile settings.accessLevel access]
  | barred _ => []

/-- The outcome of an opening. -/
def outcome : Opening → Outcome Unit
  | complete _ _ => .ok ()
  | halfway _ fault => .error fault
  | barred fault => .error fault

end Opening

namespace System

/-- The system with handlers attached behind those of a logger, and another disk. -/
def attachAll (system : System) (name : String) (handlers : List Handler) (disk : Disk) : System :=
  { loggers := system.loggers.modify name fun logger =>
      { logger with handlers := logger.handlers ++ handlers }
    configured := system.configured
    output := { system.output with disk := disk } }

theorem attachFile_eq (system : System) (settings : Settings) (name : String)
    (severity : Severity) :
    system.attachFile settings name severity =
      match system.output.disk.openFile (logPath settings name) with
      | .error fault => (system, .error fault)
      | .ok (identity, disk) =>
          (system.attachAll settings.loggerName [fileHandler settings name severity identity] disk,
            .ok ()) := by
  unfold attachFile FileTarget.create
  cases system.output.disk.openFile (logPath settings name) <;> rfl

theorem attachAll_attachAll (system : System) (name : String) (first second : List Handler)
    (middle disk : Disk) :
    (system.attachAll name first middle).attachAll name second disk =
      system.attachAll name (first ++ second) disk := by
  simp only [attachAll, Loggers.modify_modify, List.append_assoc]

theorem get_attachAll (system : System) (name other : String) (handlers : List Handler)
    (disk : Disk) :
    (system.attachAll name handlers disk).loggers.get other =
      if Loggers.nameOf name = Loggers.nameOf other then
        { system.loggers.get other with
          handlers := (system.loggers.get other).handlers ++ handlers }
      else system.loggers.get other := by
  rw [attachAll, Loggers.get_modify]

/-- A name that is configured for the first time: the handlers of the files that can be opened are
attached, and only if both can be the configuration is completed. -/
theorem configure_of_unconfigured {system : System} {settings : Settings}
    (unconfigured : system.configured.find? settings.loggerName = none) :
    system.configure settings =
      let opened := Opening.ofDisk system.output.disk settings
      let attached := system.attachAll settings.loggerName (opened.1.handlers settings) opened.2
      match opened.1.outcome with
      | .error failure => (attached, .error failure)
      | .ok () => (attached.complete settings, .ok ()) := by
  have known (disk : Disk) : ({ system with
      loggers := system.loggers.touch settings.loggerName } : System).withDisk disk =
        system.attachAll settings.loggerName [] disk := by
    simp only [attachAll, List.append_nil]
    rfl
  have with_disk (handlers : List Handler) (disk : Disk) :
      (system.attachAll settings.loggerName handlers disk).output.disk = disk := rfl
  simp only [configure, unconfigured, attachFiles, known, Opening.ofDisk]
  cases system.output.disk.makeFolders settings.folder with
  | mk folders made =>
      cases made with
      | error fault => rfl
      | ok done =>
          simp only [attachFile_eq, with_disk]
          cases folders.openFile (logPath settings settings.accessFile) with
          | error fault => rfl
          | ok access =>
              simp only [attachAll_attachAll, List.nil_append, with_disk]
              cases access.2.openFile (logPath settings settings.errorFile) with
              | error fault => rfl
              | ok error => rfl

/-- A name that is configured for the first time: both files are opened, and only its logger
changes, which gets the handlers of the settings behind its own. -/
theorem exists_opening_of_configure {system ready : System} {settings : Settings}
    (unconfigured : system.configured.find? settings.loggerName = none)
    (done : system.configure settings = (ready, .ok ())) :
    ∃ access error disk,
      Opening.ofDisk system.output.disk settings = (.complete access error, disk) ∧ ready =
        { loggers := system.loggers.modify settings.loggerName fun logger =>
            ⟨loggerLevel settings, false,
              logger.handlers ++ attachedHandlers settings access error⟩
          configured := system.configured.put settings.loggerName settings.handlerKey
          output := { system.output with disk := disk } } := by
  rw [configure_of_unconfigured unconfigured] at done
  generalize Opening.ofDisk system.output.disk settings = opened at done
  obtain ⟨opening, disk⟩ := opened
  cases opening with
  | halfway access fault => cases (Prod.mk.inj done).2
  | barred fault => cases (Prod.mk.inj done).2
  | complete access error =>
      refine ⟨access, error, disk, rfl, ?_⟩
      rw [← (Prod.mk.inj done).1, complete]
      cases console : settings.console <;>
        simp [attach, attachAll, attachedHandlers, Opening.handlers, console, Loggers.modify_modify]

theorem configure_eq_ok {system ready : System} {settings : Settings}
    (unconfigured : system.configured.find? settings.loggerName = none)
    (done : system.configure settings = (ready, .ok ())) :
    ∃ access error disk, ready =
      { loggers := system.loggers.modify settings.loggerName fun logger =>
          ⟨loggerLevel settings, false,
            logger.handlers ++ attachedHandlers settings access error⟩
        configured := system.configured.put settings.loggerName settings.handlerKey
        output := { system.output with disk := disk } } := by
  obtain ⟨access, error, disk, -, ready_eq⟩ := exists_opening_of_configure unconfigured done
  exact ⟨access, error, disk, ready_eq⟩

/-- The logger of a name that is configured for the first time. -/
theorem exists_find?_of_configure {system ready : System} {settings : Settings}
    (unconfigured : system.configured.find? settings.loggerName = none)
    (done : system.configure settings = (ready, .ok ())) :
    ∃ access error, Catalog.find? ready.loggers (Loggers.nameOf settings.loggerName) =
      some ⟨loggerLevel settings, false, (system.loggers.get settings.loggerName).handlers ++
        attachedHandlers settings access error⟩ := by
  obtain ⟨access, error, disk, rfl⟩ := configure_eq_ok unconfigured done
  exact ⟨access, error, by rw [Loggers.find?_modify]⟩

end System
end Logging
end RequestLog
