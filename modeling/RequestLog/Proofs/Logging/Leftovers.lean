import RequestLog.Proofs.Logging.FirstConfiguration

/-!
# What failed configurations leave behind

A configuration that fails notes no name and sets no level, and most of them change no logger at
all.  One does: when the access file can be opened and the error file cannot, the handler of the
access file stays with the logger.  The name does not count as configured, so the next attempt
starts anew; attempts that end like this leave one handler each, and the one that succeeds attaches
its own behind them.
-/

namespace RequestLog
namespace Logging

namespace Opening

/-- Only the access file is open. -/
def isHalfway : Opening → Bool
  | halfway _ _ => true
  | _ => false

/-- The folder can be made and the access file opened, but not the error file. -/
def EndsHalfway (disk : Disk) (settings : Settings) : Prop :=
  (ofDisk disk settings).1.isHalfway = true

instance (disk : Disk) (settings : Settings) : Decidable (EndsHalfway disk settings) :=
  inferInstanceAs (Decidable (_ = true))

/-- The folder cannot be made, or one of the files cannot be opened. -/
def Fails (disk : Disk) (settings : Settings) : Prop :=
  (ofDisk disk settings).1.outcome.isOk = false

instance (disk : Disk) (settings : Settings) : Decidable (Fails disk settings) :=
  inferInstanceAs (Decidable (_ = false))

/-- An opening that fails has opened no file, or the access file only. -/
theorem handlers_of_fails {disk : Disk} {settings : Settings} (fails : Fails disk settings) :
    ((ofDisk disk settings).1.handlers settings = [] ∧ ¬EndsHalfway disk settings) ∨
      ((∃ access, (ofDisk disk settings).1.handlers settings =
        [fileHandler settings settings.accessFile settings.accessLevel access]) ∧
        EndsHalfway disk settings) := by
  simp only [Fails, EndsHalfway] at fails ⊢
  generalize (ofDisk disk settings).1 = opening at fails ⊢
  cases opening with
  | complete access error => cases fails
  | halfway access fault => exact Or.inr ⟨⟨access, rfl⟩, rfl⟩
  | barred fault => exact Or.inl ⟨rfl, Bool.false_ne_true⟩

end Opening

/-- What attempts on disks leave behind: the handlers of the files that each could open. -/
def leftovers (settings : Settings) (disks : List Disk) : List Handler :=
  disks.flatMap fun disk => (Opening.ofDisk disk settings).1.handlers settings

namespace System

variable {system later : System} {settings : Settings} {failure : Failure}

/-! ## One attempt -/

theorem configure_of_fails (unconfigured : system.configured.find? settings.loggerName = none)
    (fails : Opening.Fails system.output.disk settings) :
    ∃ failure, system.configure settings =
      (system.attachAll settings.loggerName
        ((Opening.ofDisk system.output.disk settings).1.handlers settings)
        (Opening.ofDisk system.output.disk settings).2, .error failure) := by
  rw [configure_of_unconfigured unconfigured]
  cases ended : (Opening.ofDisk system.output.disk settings).1.outcome with
  | ok done =>
      rw [Opening.Fails, ended] at fails
      cases fails
  | error failure =>
      simp only [ended]
      exact ⟨failure, rfl⟩

theorem opens_of_not_fails (unconfigured : system.configured.find? settings.loggerName = none)
    (in_order : ¬Opening.Fails system.output.disk settings) : system.opens settings = true := by
  rw [opens, unconfigured]
  simpa [Opening.Fails] using in_order

/-- What a configuration that fails does: the name is taken, or the files cannot be opened and the
handlers of those that can be stay. -/
theorem configure_eq_error (failed : system.configure settings = (later, .error failure)) :
    ((system.configured.find? settings.loggerName).isSome ∧
      later = { system with loggers := system.loggers.touch settings.loggerName }) ∨
    (system.configured.find? settings.loggerName = none ∧
      Opening.Fails system.output.disk settings ∧
      later = system.attachAll settings.loggerName
        ((Opening.ofDisk system.output.disk settings).1.handlers settings)
        (Opening.ofDisk system.output.disk settings).2) := by
  cases configured : system.configured.find? settings.loggerName with
  | some key =>
      simp only [configure, configured] at failed
      split at failed
      · cases (Prod.mk.inj failed).2
      · exact Or.inl ⟨rfl, (Prod.mk.inj failed).1.symm⟩
  | none =>
      by_cases fails : Opening.Fails system.output.disk settings
      · obtain ⟨cause, attached⟩ := configure_of_fails configured fails
        rw [attached] at failed
        exact Or.inr ⟨rfl, fails, (Prod.mk.inj failed).1.symm⟩
      · obtain ⟨ready, done⟩ :=
          exists_configure_of_opens configured (opens_of_not_fails configured fails)
        rw [done] at failed
        cases (Prod.mk.inj failed).2

/-! ## Attempts one after the other -/

/-- Configure a logger again and again, each time with the disk as it then is. -/
def attempts (system : System) (settings : Settings) : List Disk → System
  | [] => system
  | disk :: rest => attempts ((system.withDisk disk).configure settings).1 settings rest

/-- Attempts that all fail: what they leave behind adds up. -/
theorem attempts_of_fails (unconfigured : system.configured.find? settings.loggerName = none)
    {disks : List Disk} (fails : ∀ disk ∈ disks, Opening.Fails disk settings) :
    (system.attempts settings disks).configured = system.configured ∧
      (system.attempts settings disks).loggers.get settings.loggerName =
        { system.loggers.get settings.loggerName with
          handlers := (system.loggers.get settings.loggerName).handlers ++
            leftovers settings disks } := by
  -- Each attempt finds the name not configured, and the handlers that the ones before it left.
  induction disks generalizing system with
  | nil => simp [attempts, leftovers]
  | cons disk rest ih =>
      have unconfigured_there :
          (system.withDisk disk).configured.find? settings.loggerName = none := unconfigured
      obtain ⟨failure, failed⟩ :=
        configure_of_fails unconfigured_there (fails disk List.mem_cons_self)
      have unconfigured_still :
          ((system.withDisk disk).configure settings).1.configured.find? settings.loggerName =
            none := by
        rwa [failed]
      obtain ⟨table, logger⟩ :=
        ih unconfigured_still fun other within => fails other (List.mem_cons_of_mem _ within)
      rw [failed] at table logger
      rw [attempts, failed]
      refine ⟨table, logger.trans ?_⟩
      simp [get_attachAll, withDisk, leftovers]

/-- Once the files can be opened the next attempt succeeds: the logger has what the attempts that
failed left behind, and the handlers of the settings behind that. -/
theorem configure_attempts (unconfigured : system.configured.find? settings.loggerName = none)
    {disks : List Disk} (fails : ∀ disk ∈ disks, Opening.Fails disk settings) {disk : Disk}
    (in_order : ¬Opening.Fails disk settings) :
    ∃ ready access error,
      ((system.attempts settings disks).withDisk disk).configure settings = (ready, .ok ()) ∧
      ready.loggers.get settings.loggerName =
        ⟨loggerLevel settings, false,
          (system.loggers.get settings.loggerName).handlers ++ leftovers settings disks ++
            attachedHandlers settings access error⟩ := by
  obtain ⟨table, logger⟩ := attempts_of_fails unconfigured fails
  have unconfigured_still :
      ((system.attempts settings disks).withDisk disk).configured.find? settings.loggerName =
        none := by
    rw [withDisk, table, unconfigured]
  obtain ⟨ready, done⟩ :=
    exists_configure_of_opens unconfigured_still (opens_of_not_fails unconfigured_still in_order)
  obtain ⟨access, error, disk, made⟩ := configure_eq_ok unconfigured_still done
  refine ⟨ready, access, error, done, ?_⟩
  rw [made, Loggers.get_modify_self, withDisk, logger]

/-- What a failed configuration leaves behind.  It notes no name and changes nothing in a logger but
the handlers of its own.  These are as they were unless the name was not configured and the access
file could be opened but not the error file; then one handler of the access file stays.  Whatever
attempts fail after it, the first that finds the files in order attaches the handlers of the
settings behind what they all left. -/
theorem failed_configuration_leaves
    (failed : system.configure settings = (later, .error failure)) :
    later.configured = system.configured ∧
    ∃ left,
      (∀ name, later.loggers.get name =
        if Loggers.nameOf settings.loggerName = Loggers.nameOf name then
          { system.loggers.get name with
            handlers := (system.loggers.get name).handlers ++ left }
        else system.loggers.get name) ∧
      ((left = [] ∧ ¬(system.configured.find? settings.loggerName = none ∧
          Opening.EndsHalfway system.output.disk settings)) ∨
        ((∃ access, left = [fileHandler settings settings.accessFile settings.accessLevel access]) ∧
          system.configured.find? settings.loggerName = none ∧
            Opening.EndsHalfway system.output.disk settings)) ∧
      (system.configured.find? settings.loggerName = none →
        ∀ disks, (∀ disk ∈ disks, Opening.Fails disk settings) →
          ∀ disk, ¬Opening.Fails disk settings → ∃ ready access error,
            ((later.attempts settings disks).withDisk disk).configure settings = (ready, .ok ()) ∧
            ready.loggers.get settings.loggerName =
              ⟨loggerLevel settings, false,
                (system.loggers.get settings.loggerName).handlers ++ left ++
                  leftovers settings disks ++ attachedHandlers settings access error⟩) := by
  rcases configure_eq_error failed with ⟨configured, rfl⟩ | ⟨unconfigured, fails, rfl⟩
  · have not_none : system.configured.find? settings.loggerName ≠ none :=
      Option.isSome_iff_ne_none.mp configured
    refine ⟨rfl, [], fun name => ?_, ?_, fun unconfigured => absurd unconfigured not_none⟩
    · rw [Loggers.get_touch, List.append_nil, ite_self]
    · exact Or.inl ⟨rfl, fun halfway => not_none halfway.1⟩
  · refine ⟨rfl, (Opening.ofDisk system.output.disk settings).1.handlers settings,
      fun name => get_attachAll .., ?_, fun _ disks all_fail disk in_order => ?_⟩
    · rcases Opening.handlers_of_fails fails with ⟨none_left, not_halfway⟩ | ⟨one_left, halfway⟩
      · exact Or.inl ⟨none_left, fun halfway => not_halfway halfway.2⟩
      · exact Or.inr ⟨one_left, unconfigured, halfway⟩
    · have unconfigured_still : (system.attachAll settings.loggerName
          ((Opening.ofDisk system.output.disk settings).1.handlers settings)
          (Opening.ofDisk system.output.disk settings).2).configured.find? settings.loggerName =
            none := unconfigured
      obtain ⟨ready, access, error, done, logger⟩ :=
        configure_attempts unconfigured_still all_fail in_order
      refine ⟨ready, access, error, done, logger.trans ?_⟩
      rw [get_attachAll, if_pos rfl]

/-- Two attempts end halfway, as a folder stands in the place of the error file; when it is gone,
the third one succeeds.  The logger then has three handlers of the access file and one of the error
file. -/
theorem failed_configuration_leaves_of_folder :
    let settings : Settings := { Settings.defaults with console := false }
    let occupied : Disk := ⟨[(["logs"], .folder), (["logs", "error.log"], .folder)], [], 0⟩
    ∃ later failure, ((start []).withDisk occupied).configure settings = (later, .error failure) ∧
      later.configured = [] ∧
      ∃ ready first second access error,
        ((later.attempts settings [occupied]).withDisk Disk.empty).configure settings =
          (ready, .ok ()) ∧
        (ready.loggers.get settings.loggerName).handlers =
          [fileHandler settings settings.accessFile settings.accessLevel first,
            fileHandler settings settings.accessFile settings.accessLevel second] ++
              attachedHandlers settings access error := by
  intro settings occupied
  have fails : Opening.Fails occupied settings := by decide +kernel
  have halfway : Opening.EndsHalfway occupied settings := by decide +kernel
  have in_order : ¬Opening.Fails Disk.empty settings := by decide +kernel
  have unconfigured :
      ((start []).withDisk occupied).configured.find? settings.loggerName = none := rfl
  obtain ⟨failure, failed⟩ := configure_of_fails unconfigured fails
  obtain ⟨table, left, -, leaves, success⟩ := failed_configuration_leaves failed
  obtain ⟨⟨first, rfl⟩, -⟩ := leaves.resolve_left fun none_left => none_left.2 ⟨rfl, halfway⟩
  obtain ⟨⟨second, again⟩, -⟩ :=
    (Opening.handlers_of_fails fails).resolve_left fun none_left => none_left.2 halfway
  obtain ⟨ready, access, error, done, logger⟩ :=
    success rfl [occupied] (by simpa using fails) _ in_order
  refine ⟨_, failure, failed, table, ready, first, second, access, error, done, ?_⟩
  have fresh : (((start []).withDisk occupied).loggers.get settings.loggerName).handlers = [] :=
    isFresh_start.handlers _
  rw [logger, fresh, leftovers, List.flatMap_singleton, again]
  rfl

/-- A failed configuration need not leave its logger as it was: there is a handler more, and after a
second attempt that succeeds there are three, where there should be two. -/
theorem failed_configuration_attaches_handler :
    let settings : Settings := { Settings.defaults with console := false }
    let occupied : Disk := ⟨[(["logs"], .folder), (["logs", "error.log"], .folder)], [], 0⟩
    let system := (start []).withDisk occupied
    let later := (system.configure settings).1
    let ready := ((later.withDisk Disk.empty).configure settings).1
    (system.configure settings).2.isOk = false ∧
      (system.loggers.get settings.loggerName).handlers.length = 0 ∧
      (later.loggers.get settings.loggerName).handlers.length = 1 ∧
      (ready.loggers.get settings.loggerName).handlers.length = 3 := by
  decide +kernel

end System
end Logging
end RequestLog
