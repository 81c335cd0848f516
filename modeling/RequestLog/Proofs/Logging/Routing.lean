import RequestLog.Proofs.Logging.Configuration
import RequestLog.Proofs.Logging.Receipts
import RequestLog.World

/-!
# Where entries go

A separate logger has a level and keeps its entries to itself.  It hands each entry that reaches the
level to those of its handlers whose level it reaches, and to no others (`log_eq_holding`).  A
freshly configured logger is separate, and its level is the least of those of its handlers, so that
it never stands in their way.
-/

namespace RequestLog
namespace Logging
namespace Logger

/-- The logger has a level of its own and keeps its entries to itself. -/
structure IsSeparate (logger : Logger) : Prop where
  /-- The level is set. -/
  level_pos : 0 < logger.level
  /-- No entry goes on to the loggers above. -/
  keeps : logger.propagate = false

/-- What the handlers of the logger receive of an entry. -/
def receipts (logger : Logger) (entry : Entry) : List Receipt :=
  if logger.level ≤ entry.level then receiptsFrom entry 0 logger.handlers else []

/-- A handler whose level is not below that of the logger receives the entries that reach its level,
each once and in order. -/
theorem filter_receipts {logger : Logger} {place : Nat} {handler : Handler}
    (placed : logger.handlers[place]? = some handler) (reaches : logger.level ≤ handler.level)
    (entries : List Entry) :
    (entries.flatMap logger.receipts).filter (fun receipt => receipt.place = place) =
      (entries.filter fun entry => handler.level ≤ entry.level).map (handler.receipt place) := by
  induction entries with
  | nil => rfl
  | cons entry rest ih =>
      have here := filter_receiptsFrom placed entry 0
      rw [Nat.zero_add] at here
      rw [List.flatMap_cons, List.filter_append, ih, receipts]
      by_cases passes : handler.level ≤ entry.level
      · rw [if_pos (Int.le_trans reaches passes), here, if_pos passes,
          List.filter_cons_of_pos (by simpa using passes)]
        rfl
      · rw [List.filter_cons_of_neg (by simpa using passes)]
        split
        · rw [here, if_neg passes, List.nil_append]
        · rfl

end Logger

namespace Loggers

theorem exists_lineage_eq_cons (loggers : Loggers) (name : String) :
    ∃ above, loggers.lineage name = nameOf name :: above := by
  rw [lineage, pathUp]
  split
  · next root => exact ⟨[], by rw [root]⟩
  · split
    · exact ⟨_, rfl⟩
    · exact ⟨_, rfl⟩

theorem isEnabled_iff {loggers : Loggers} {name : String}
    (separate : (loggers.get name).IsSeparate) (level : Int) :
    loggers.isEnabled name level = true ↔ (loggers.get name).level ≤ level := by
  obtain ⟨above, lineage_eq⟩ := loggers.exists_lineage_eq_cons name
  have set_level : (loggers.get name).level ≠ 0 := Int.ne_of_gt separate.level_pos
  rw [isEnabled, effectiveLevel, lineage_eq, firstLevel, get_nameOf, if_neg set_level,
    Bool.and_eq_true, decide_eq_true_eq, decide_eq_true_eq]
  have positive := separate.level_pos
  omega

end Loggers

namespace System

/-- The entries of a separate logger go to its own handlers alone, if they reach its level. -/
theorem route_eq {system : System} {entry : Entry}
    (separate : (system.loggers.get entry.logger).IsSeparate) :
    system.route entry =
      if (system.loggers.get entry.logger).level ≤ entry.level then [Loggers.nameOf entry.logger]
      else [] := by
  obtain ⟨above, lineage_eq⟩ := system.loggers.exists_lineage_eq_cons entry.logger
  have own_only : system.loggers.reached (system.loggers.lineage entry.logger) =
      [Loggers.nameOf entry.logger] := by
    rw [lineage_eq, Loggers.reached, Loggers.get_nameOf, separate.keeps, if_neg Bool.false_ne_true]
  rw [route, own_only]
  simp only [Loggers.isEnabled_iff separate]

/-- The system with other handlers of one logger and another output. -/
def holding (system : System) (name : String) (held : Holding) : System :=
  { system with
    loggers := system.loggers.modify name fun logger => { logger with handlers := held.1 }
    output := held.2 }

theorem get_holding (system : System) (name : String) (held : Holding) :
    (system.holding name held).loggers.get name =
      { system.loggers.get name with handlers := held.1 } := by
  rw [holding, Loggers.get_modify_self]

theorem holding_self {system : System} {name : String} {logger : Logger}
    (known : Catalog.find? system.loggers (Loggers.nameOf name) = some logger) :
    system.holding name (logger.handlers, system.output) = system := by
  have same : system.loggers.modify name
      (fun present => { present with handlers := logger.handlers }) = system.loggers :=
    Loggers.modify_eq_self known rfl
  rw [holding, same]

theorem get_holding_of_ne (system : System) {name other : String}
    (differs : Loggers.nameOf name ≠ Loggers.nameOf other) (held : Holding) :
    (system.holding name held).loggers.get other = system.loggers.get other := by
  rw [holding, Loggers.get_modify_of_ne _ differs]

theorem level_holding (system : System) (name : String) (held : Holding) :
    ((system.holding name held).loggers.get name).level = (system.loggers.get name).level := by
  rw [get_holding]

/-- A logger stays separate, whatever its handlers have become. -/
theorem isSeparate_holding {system : System} {name : String}
    (separate : (system.loggers.get name).IsSeparate) (held : Holding) :
    ((system.holding name held).loggers.get name).IsSeparate := by
  rw [get_holding]
  exact ⟨separate.level_pos, separate.keeps⟩

theorem holding_holding (system : System) (name : String) (first second : Holding) :
    (system.holding name first).holding name second = system.holding name second := by
  simp only [holding, Loggers.modify_modify]

/-- Logging an entry through a separate logger is handing out its receipts to the handlers. -/
theorem log_eq_holding {system : System} {entry : Entry} {logger : Logger}
    (known : Catalog.find? system.loggers (Loggers.nameOf entry.logger) = some logger)
    (separate : logger.IsSeparate) :
    system.log entry = system.holding entry.logger
      (deliverAll (logger.receipts entry) (logger.handlers, system.output)) := by
  have got : system.loggers.get entry.logger = logger := by
    rw [Loggers.get, known, Option.getD_some]
  have touched : system.loggers.touch entry.logger = system.loggers := by
    rw [Loggers.touch_eq_modify]
    exact Loggers.modify_eq_self known rfl
  rw [log, touched, route_eq (got ▸ separate), got, Logger.receipts]
  split
  · have handed := deliverAll_receiptsFrom entry [] logger.handlers system.output
    simp only [List.length_nil, List.nil_append] at handed
    rw [handed]
    simp only [deliver, Loggers.get_nameOf, Loggers.modify_nameOf, got]
    rfl
  · rw [deliverAll, List.foldl_nil, holding_self known, deliver]

/-- Logging entries through a separate logger is handing out all their receipts. -/
theorem foldl_log_eq_holding {system : System} {name : String} {logger : Logger}
    (known : Catalog.find? system.loggers (Loggers.nameOf name) = some logger)
    (separate : logger.IsSeparate) {entries : List Entry}
    (all_own : ∀ entry ∈ entries, entry.logger = name) :
    entries.foldl log system = system.holding name
      (deliverAll (entries.flatMap logger.receipts) (logger.handlers, system.output)) := by
  have got : system.loggers.get name = logger := by rw [Loggers.get, known, Option.getD_some]
  induction entries generalizing system logger with
  | nil => rw [List.foldl_nil, List.flatMap_nil, deliverAll, List.foldl_nil, holding_self known]
  | cons entry rest ih =>
      obtain ⟨own, others_own⟩ := List.forall_mem_cons.mp all_own
      rw [List.foldl_cons, log_eq_holding (own ▸ known) separate, own]
      -- The handlers have written the entry, but receive later entries as if they had not.
      let held := deliverAll (logger.receipts entry) (logger.handlers, system.output)
      let later : Logger := { logger with handlers := held.1 }
      have same_receipts : later.receipts = logger.receipts := by
        funext other
        have same_manner : held.1.map Handler.manner = logger.handlers.map Handler.manner :=
          map_manner_deliverAll _ _
        simp only [Logger.receipts, later, receiptsFrom_congr other 0 same_manner]
      have known_later : Catalog.find? (system.holding name held).loggers (Loggers.nameOf name) =
          some later := by
        rw [holding, Loggers.find?_modify, got]
      have rest_logged := ih known_later ⟨separate.level_pos, separate.keeps⟩ others_own
        (by rw [get_holding, got])
      rw [rest_logged, holding_holding, same_receipts, List.flatMap_cons, deliverAll_append]
      rfl

end System

/-! ## Emissions -/

/-- A call of an access logger. -/
structure Emission where
  /-- When the call is made. -/
  now : Instant
  /-- The severity, by a label. -/
  severity : String
  /-- The record. -/
  record : Value

namespace Emission

/-- The level of the severity; an unknown label counts as an error. -/
def level (emission : Emission) : Int :=
  ((Severity.ofLabel? emission.severity).getD .error).level

/-- The entry that the call makes. -/
def entry (name : String) (emission : Emission) : Entry :=
  { logger := name
    level := emission.level
    template := .str "request"
    arguments := .ofList []
    access := some emission.record
    failure := none
    created := .float (Decimal.floatOfInt emission.now.micros / 1000000) }

end Emission
end Logging

namespace World

variable {σ : Type}

open Logging

/-- Call an access logger, each time at its own time, and list what came of the calls. -/
def emitAll (world : World σ) (name : String) : List Emission → List (Outcome Unit) × World σ
  | [] => ([], world)
  | emission :: rest =>
      let present := { world with clock := { world.clock with now := emission.now } }
      let emitted := present.emit name (.str emission.severity) emission.record
      let others := emitAll emitted.2 name rest
      (emitted.1 :: others.1, others.2)

/-- No call fails, and each one logs its entry. -/
theorem emitAll_eq (world : World σ) (name : String) (emissions : List Emission) :
    (world.emitAll name emissions).1 = emissions.map (fun _ => .ok ()) ∧
      (world.emitAll name emissions).2.logs =
        (emissions.map (Emission.entry name)).foldl System.log world.logs := by
  induction emissions generalizing world with
  | nil => exact ⟨rfl, rfl⟩
  | cons emission rest ih =>
      let present := { world with clock := { world.clock with now := emission.now } }
      obtain ⟨outcomes, logs⟩ := ih (present.emit name (.str emission.severity) emission.record).2
      exact ⟨congrArg _ outcomes, logs⟩

/-- A freshly configured access logger loses nothing and leaks nothing.  Each of its handlers
receives the calls whose level reaches that of the handler, once, in order and in its own layout;
and its own handlers are all that receives anything. -/
theorem emissions_routed {settings : Settings} {world : World σ} {ready : System}
    (unconfigured : world.logs.configured.find? settings.loggerName = none)
    (configured : world.logs.configure settings = (ready, .ok ())) (emissions : List Emission) :
    let name := Loggers.nameOf settings.loggerName
    let earlier := (world.logs.loggers.get name).handlers
    let logger := ready.loggers.get name
    let run := { world with logs := ready }.emitAll name emissions
    let entries := emissions.map (Emission.entry name)
    let receipts := entries.flatMap logger.receipts
    (∃ access error,
      logger.handlers = earlier ++ attachedHandlers settings access error ∧
      ∀ place handler, (attachedHandlers settings access error)[place]? = some handler →
        receipts.filter (fun receipt => receipt.place = earlier.length + place) =
            (entries.filter fun entry => handler.level ≤ entry.level).map
              (handler.receipt (earlier.length + place)) ∧
          ∀ level, handler.level ≤ level → run.2.logs.loggers.isEnabled name level = true) ∧
    (run.1 = emissions.map (fun _ => .ok ()) ∧
      run.2.logs =
        ready.holding name (deliverAll receipts (logger.handlers, ready.output))) ∧
    (∀ other, Loggers.nameOf other ≠ name →
      run.2.logs.loggers.get other = ready.loggers.get other) ∧
    ∀ next : Emission, run.2.logs.route (next.entry name) =
      if logger.level ≤ next.level then [name] else [] := by
  intro name earlier logger run entries receipts
  obtain ⟨access, error, found⟩ := System.exists_find?_of_configure unconfigured configured
  have logger_eq : logger =
      ⟨loggerLevel settings, false, earlier ++ attachedHandlers settings access error⟩ := by
    rw [show logger = ready.loggers.get name from rfl, Loggers.get_nameOf, Loggers.get, found,
      Option.getD_some, ← Loggers.get_nameOf]
  have known : Catalog.find? ready.loggers (Loggers.nameOf name) = some logger := by
    rw [Loggers.nameOf_nameOf, found, logger_eq, ← Loggers.get_nameOf]
  have separate : logger.IsSeparate := by
    rw [logger_eq]
    exact ⟨loggerLevel_pos settings, rfl⟩
  have own : ∀ entry ∈ entries, entry.logger = name := by
    intro entry among
    obtain ⟨emission, -, rfl⟩ := List.mem_map.mp among
    rfl
  obtain ⟨outcomes, logged⟩ := { world with logs := ready }.emitAll_eq name emissions
  have handed_out : run.2.logs =
      ready.holding name (deliverAll receipts (logger.handlers, ready.output)) :=
    logged.trans (System.foldl_log_eq_holding known separate own)
  have separate_after : (run.2.logs.loggers.get name).IsSeparate := by
    rw [handed_out]
    exact System.isSeparate_holding separate _
  have level_after : (run.2.logs.loggers.get name).level = logger.level := by
    rw [handed_out]
    exact System.level_holding _ _ _
  have least : ∀ handler ∈ attachedHandlers settings access error,
      logger.level ≤ handler.level := by
    rw [logger_eq]
    exact fun handler => loggerLevel_le
  refine ⟨⟨access, error, by rw [logger_eq], fun place handler placed =>
    ⟨?_, fun level reaches => ?_⟩⟩, ⟨outcomes, handed_out⟩, fun other elsewhere => ?_,
    fun next => ?_⟩
  · refine Logger.filter_receipts ?_ (least handler (List.mem_of_getElem? placed)) entries
    rw [logger_eq, List.getElem?_append_right (Nat.le_add_right _ _), Nat.add_sub_cancel_left,
      placed]
  · rw [Loggers.isEnabled_iff separate_after, level_after]
    exact Int.le_trans (least handler (List.mem_of_getElem? placed)) reaches
  · rw [handed_out]
    refine System.get_holding_of_ne _ ?_ _
    rw [Loggers.nameOf_nameOf]
    exact Ne.symm elsewhere
  · have own_name : (next.entry name).logger = name := rfl
    rw [System.route_eq (own_name ▸ separate_after), own_name, level_after, Loggers.nameOf_nameOf]
    rfl

/-- With the settings that nothing is given for, an unknown label goes to the error file too,
details go to the console alone, and the least severity goes nowhere. -/
theorem emissions_routed_of_defaults :
    let world : World Unit := World.start ⟨0⟩ () []
    let name := Settings.defaults.loggerName
    let calls : List Emission := [⟨⟨0⟩, "info", .dict []⟩, ⟨⟨1⟩, "loud", .dict []⟩,
      ⟨⟨2⟩, "verbose", .null⟩, ⟨⟨3⟩, "silly", .dict []⟩]
    ∃ ready, world.logs.configure Settings.defaults = (ready, .ok ()) ∧
      let receipts := (calls.map (Emission.entry name)).flatMap (ready.loggers.get name).receipts
      let levelsAt (place : Nat) :=
        (receipts.filter fun receipt => receipt.place = place).map fun receipt =>
          receipt.entry.level
      levelsAt 0 = [20, 40] ∧ levelsAt 1 = [40] ∧ levelsAt 2 = [20, 40, 15] := by
  intro world name calls
  have accepted : (world.logs.configure Settings.defaults).2.isOk = true := by decide +kernel
  cases configured : world.logs.configure Settings.defaults with
  | mk ready outcome =>
      rw [configured] at accepted
      cases outcome with
      | error failure => cases accepted
      | ok done =>
          have unconfigured :
              world.logs.configured.find? Settings.defaults.loggerName = none := rfl
          obtain ⟨⟨access, error, -, routed⟩, -, -, -⟩ :=
            emissions_routed unconfigured configured calls
          have named : Loggers.nameOf Settings.defaults.loggerName = name := by decide +kernel
          have none_earlier : (world.logs.loggers.get name).handlers = [] := rfl
          rw [named, none_earlier] at routed
          simp only [List.length_nil, Nat.zero_add] at routed
          refine ⟨ready, rfl, ?_⟩
          intro receipts levelsAt
          have levels_at (place : Nat) (handler : Handler)
              (placed : (attachedHandlers Settings.defaults access error)[place]? = some handler) :
              levelsAt place = ((calls.map (Emission.entry name)).filter fun entry =>
                handler.level ≤ entry.level).map Entry.level := by
            have received := congrArg (List.map fun receipt => receipt.entry.level)
              (routed place handler placed).1
            rwa [List.map_map] at received
          exact ⟨levels_at 0 _ rfl, levels_at 1 _ rfl, levels_at 2 _ rfl⟩

end World
end RequestLog
