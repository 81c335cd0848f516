import RequestLog.Proofs.Logging.FirstConfiguration
import RequestLog.Proofs.Logging.HeldFiles
import RequestLog.Proofs.Logging.Routing

/-!
# One line for each file

Loggers are configured and used in any order.  As long as no file of a logger is lost in a
roll-over, its two handlers hold different files open if their paths differ, so each record gives
every file one line at most.  The step is that of `handleAll_writesOnce`; here it is carried through
all that happens before.
-/

namespace RequestLog
namespace Logging

/-! ## Opening both files -/

namespace Opening

/-- Opening log files keeps the disk in order. -/
theorem continued_ofDisk (disk : Disk) (settings : Settings) :
    disk.Continued (ofDisk disk settings).2 := by
  have folders := disk.rearranged_makeFolders settings.folder
  rw [ofDisk]
  generalize disk.makeFolders settings.folder = made at folders ⊢
  obtain ⟨middle, outcome⟩ := made
  cases outcome with
  | error fault => exact folders.toContinued
  | ok done =>
      dsimp only
      split
      · exact folders.toContinued
      · next access after_access opened =>
          have first := folders.trans (Disk.rearranged_openFile opened)
          split
          · exact first.toContinued
          · next opened => exact (first.trans (Disk.rearranged_openFile opened)).toContinued

end Opening

namespace System

/-- The logger holds all of its log files open. -/
def keepsFiles (system : System) (name : String) : Bool :=
  (system.loggers.get name).handlers.all Handler.isReady

/-- What holds of all loggers, whatever happens to them. -/
structure IsOrderly (calls : List Settings) (system : System) : Prop where
  sound : system.output.disk.IsSound
  noted : ∀ written, (system.configured.find? written).isSome = true ↔
    ∃ settings ∈ calls, settings.loggerName = written
  unled : ∀ name, leader? calls name = none → (system.loggers.get name).handlers = []
  separate : ∀ name first, leader? calls name = some first → (system.loggers.get name).IsSeparate

/-- A separate logger is known, as nothing has been set for others. -/
theorem known_of_separate {loggers : Loggers} {name : String}
    (separate : (loggers.get name).IsSeparate) :
    Catalog.find? loggers (Loggers.nameOf name) = some (loggers.get name) := by
  have level := separate.level_pos
  rw [Loggers.get] at level ⊢
  cases found : Catalog.find? loggers (Loggers.nameOf name) with
  | some logger => rfl
  | none =>
      rw [found] at level
      exact absurd level (Int.lt_irrefl 0)

/-- Entries of a separate logger are handled by its handlers, if they reach its level. -/
theorem log_of_separate {system : System} {entry : Entry}
    (separate : (system.loggers.get entry.logger).IsSeparate) :
    let logger := system.loggers.get entry.logger
    let handled := if logger.level ≤ entry.level then handleAll entry logger.handlers system.output
      else (logger.handlers, system.output)
    (∀ name, (system.log entry).loggers.get name =
      if Loggers.nameOf entry.logger = Loggers.nameOf name then
        { logger with handlers := handled.1 }
      else system.loggers.get name) ∧
    (system.log entry).configured = system.configured ∧ (system.log entry).output = handled.2 := by
  intro logger handled
  have logged : system.log entry = system.holding entry.logger handled := by
    rw [log_eq_holding (known_of_separate separate) separate, Logger.receipts]
    by_cases passes : logger.level ≤ entry.level
    · have handed := deliverAll_receiptsFrom entry [] logger.handlers system.output
      simp only [List.length_nil, List.nil_append] at handed
      rw [if_pos passes, handed]
      exact congrArg _ (if_pos passes).symm
    · rw [if_neg passes]
      exact congrArg _ (if_neg passes).symm
  rw [logged]
  refine ⟨fun name => ?_, rfl, rfl⟩
  split
  · next own => rw [← Loggers.get_congr _ own, get_holding]
  · next elsewhere => exact get_holding_of_ne system elsewhere handled

variable {start system later : System} {calls : List Settings} {settings first : Settings}
  {name : String}

/-- A configuration with success: the name was noted and nothing changes, or the files are opened
and the logger gets their handlers. -/
theorem configure_cases (done : system.configure settings = (later, .ok ())) :
    ((system.configured.find? settings.loggerName).isSome = true ∧
      later = { system with loggers := system.loggers.touch settings.loggerName }) ∨
    (system.configured.find? settings.loggerName = none ∧ ∃ access error disk,
      Opening.ofDisk system.output.disk settings = (.complete access error, disk) ∧ later =
        { loggers := system.loggers.modify settings.loggerName fun logger =>
            ⟨loggerLevel settings, false,
              logger.handlers ++ attachedHandlers settings access error⟩
          configured := system.configured.put settings.loggerName settings.handlerKey
          output := { system.output with disk := disk } }) := by
  cases noted : system.configured.find? settings.loggerName with
  | none => exact Or.inr ⟨rfl, exists_opening_of_configure noted done⟩
  | some key =>
      simp only [configure, noted] at done
      split at done
      · exact Or.inl ⟨rfl, (Prod.mk.inj done).1.symm⟩
      · cases (Prod.mk.inj done).2

namespace IsOrderly

theorem refl (fresh : start.IsFresh) (sound : start.output.disk.IsSound) : IsOrderly [] start where
  sound := sound
  noted written := by rw [fresh.configured]; simp
  unled name _ := fresh.handlers name
  separate name first leads := by cases leads

/-- Settings for a name that is noted change nothing. -/
theorem configure_noted (orderly : IsOrderly calls system)
    (noted : (system.configured.find? settings.loggerName).isSome = true) :
    IsOrderly (calls ++ [settings])
      { system with loggers := system.loggers.touch settings.loggerName } := by
  obtain ⟨other, called, same⟩ := (orderly.noted _).mp noted
  have led : leader? calls settings.loggerName ≠ none := fun unled =>
    leader?_eq_none_iff.mp unled ⟨other, called, congrArg _ same⟩
  obtain ⟨first, leads⟩ := Option.ne_none_iff_exists'.mp led
  have same_leaders := leader?_concat_of_led leads
  constructor
  · exact orderly.sound
  · intro written
    rw [orderly.noted]
    constructor
    · rintro ⟨one, called_before, rfl⟩
      exact ⟨one, List.mem_append_left _ called_before, rfl⟩
    · rintro ⟨one, called_now, rfl⟩
      rcases List.mem_append.mp called_now with before | last
      · exact ⟨one, before, rfl⟩
      · rw [List.mem_singleton.mp last]
        exact ⟨other, called, same⟩
  · intro name unled
    rw [Loggers.get_touch]
    exact orderly.unled name (same_leaders name ▸ unled)
  · intro name first leads
    rw [Loggers.get_touch]
    exact orderly.separate name first (same_leaders name ▸ leads)

/-- Settings for a name that is not noted shape its logger. -/
theorem configure_new (orderly : IsOrderly calls system) (handlers : List Handler) {disk : Disk}
    (continued : system.output.disk.Continued disk) :
    IsOrderly (calls ++ [settings])
      { loggers := system.loggers.modify settings.loggerName fun logger =>
          ⟨loggerLevel settings, false, logger.handlers ++ handlers⟩
        configured := system.configured.put settings.loggerName settings.handlerKey
        output := { system.output with disk := disk } } := by
  constructor
  · exact continued.sound orderly.sound
  · intro written
    rw [Catalog.find?_put]
    split
    · next same => simp [← same]
    · next differs =>
        rw [orderly.noted]
        simp [differs]
  · intro name unled
    rw [leader?_concat, Option.or_eq_none_iff] at unled
    have differs : Loggers.nameOf settings.loggerName ≠ Loggers.nameOf name := by
      intro same
      rw [if_pos same] at unled
      cases unled.2
    rw [Loggers.get_modify_of_ne _ differs]
    exact orderly.unled name unled.1
  · intro name first leads
    rw [Loggers.get_modify]
    split
    · exact ⟨loggerLevel_pos settings, rfl⟩
    · next differs =>
        rw [leader?_concat, if_neg differs, Option.or_none] at leads
        exact orderly.separate name first leads

theorem configure (orderly : IsOrderly calls system)
    (done : system.configure settings = (later, .ok ())) :
    IsOrderly (calls ++ [settings]) later := by
  rcases configure_cases done with ⟨noted, rfl⟩ | ⟨-, access, error, disk, opened, rfl⟩
  · exact orderly.configure_noted noted
  · have continued := Opening.continued_ofDisk system.output.disk settings
    rw [opened] at continued
    exact orderly.configure_new _ continued

theorem log (orderly : IsOrderly calls system) {entry : Entry}
    (leads : leader? calls entry.logger = some first) : IsOrderly calls (system.log entry) := by
  have separate := orderly.separate _ _ leads
  obtain ⟨loggers, table, output⟩ := log_of_separate separate
  constructor
  · rw [output]
    split
    · exact (continued_handleAll _ _ _).sound orderly.sound
    · exact orderly.sound
  · rw [table]
    exact orderly.noted
  · intro name unled
    rw [loggers]
    split
    · next own =>
        rw [leader?_congr own, unled] at leads
        cases leads
    · exact orderly.unled name unled
  · intro name first leads
    rw [loggers]
    split
    · exact ⟨separate.level_pos, separate.keeps⟩
    · exact orderly.separate name first leads

end IsOrderly

/-- The logger of a name holds different files open, and keeps no entry from its handlers. -/
structure HoldsApart (system : System) (name : String) (layout : Layout) : Prop where
  files : HoldApart layout (system.loggers.get name).handlers system.output.disk
  level_le : ∀ handler ∈ (system.loggers.get name).handlers,
    (system.loggers.get name).level ≤ handler.level

namespace HoldsApart

variable {layout : Layout}

/-- A logger that stays as it is. -/
theorem of_same (apart : system.HoldsApart name layout)
    (same : later.loggers.get name = system.loggers.get name)
    (continued : system.output.disk.Continued later.output.disk) :
    later.HoldsApart name layout := by
  constructor
  · rw [same]
    exact apart.files.continued continued
  · rw [same]
    exact apart.level_le

/-- Further settings under a name that is noted. -/
theorem configure_noted (apart : system.HoldsApart name layout)
    (done : system.configure settings = (later, .ok ()))
    (noted : (system.configured.find? settings.loggerName).isSome = true) :
    later.HoldsApart name layout := by
  rcases configure_cases done with ⟨-, rfl⟩ | ⟨not_noted, -⟩
  · exact apart.of_same (Loggers.get_touch _ _ _) (Disk.Continued.refl _)
  · rw [not_noted] at noted
    cases noted

/-- An entry of any logger, if no file is lost. -/
theorem log (apart : system.HoldsApart name layout) {entry : Entry}
    (separate : (system.loggers.get entry.logger).IsSeparate)
    (keeps : (system.log entry).keepsFiles name = true) :
    (system.log entry).HoldsApart name layout := by
  obtain ⟨loggers, -, output⟩ := log_of_separate separate
  have continued : system.output.disk.Continued (system.log entry).output.disk := by
    rw [output]
    split
    · exact continued_handleAll _ _ _
    · exact Disk.Continued.refl _
  by_cases own : Loggers.nameOf entry.logger = Loggers.nameOf name
  · rw [keepsFiles, List.all_eq_true] at keeps
    have here := loggers name
    rw [if_pos own, Loggers.get_congr _ own] at here
    by_cases passes : (system.loggers.get name).level ≤ entry.level
    · have output_here := output
      rw [Loggers.get_congr _ own, if_pos passes] at output_here
      rw [if_pos passes] at here
      constructor
      · rw [here] at keeps ⊢
        rw [output_here]
        exact (handleAll_writesOnce apart.files entry).holdApart keeps
      · rw [here]
        intro handler within
        have kept := map_manner_handleAll entry (system.loggers.get name).handlers system.output
        have among := List.mem_map_of_mem (f := Handler.manner) within
        rw [kept] at among
        obtain ⟨before, before_within, same_manner⟩ := List.mem_map.mp among
        have same_level : before.level = handler.level := (Prod.mk.inj same_manner).1
        rw [← same_level]
        exact apart.level_le before before_within
    · rw [if_neg passes] at here
      exact apart.of_same here continued
  · have elsewhere := loggers name
    rw [if_neg own] at elsewhere
    exact apart.of_same elsewhere continued

end HoldsApart

end System
end Logging

namespace World

open Logging

variable {σ : Type}

end World
end RequestLog
