import RequestLog.Proofs.Logging.Configuration

/-!
# The first configuration of a logger counts

Loggers are configured one after the other.  The first settings for a logger give it its handlers
and its level and keep its entries to itself; later ones for it find everything as it is to be or
are refused, and change nothing.  Files that cannot be opened are left aside here.
-/

namespace RequestLog

/-- Settings for one logger have the same key exactly if they differ in nothing but what the logger
does not see: the format of the records, the failures of apps and the trust in proxies. -/
theorem Settings.handlerKey_eq_iff {left right : Settings}
    (named : left.loggerName = right.loggerName) :
    left.handlerKey = right.handlerKey ↔
      left = { right with
        handleExceptions := left.handleExceptions
        trustProxy := left.trustProxy
        format := left.format } := by
  cases left
  cases right
  simp only at named
  simp [handlerKey, named]

namespace Logging

/-! ## The settings that count -/

/-- The first settings for the logger of a name. -/
def leader? (calls : List Settings) (name : String) : Option Settings :=
  calls.find? fun settings => Loggers.nameOf settings.loggerName == Loggers.nameOf name

/-- Settings for the logger of a name write the name alike. -/
def SpeltAs (calls : List Settings) (name : String) : Prop :=
  ∀ settings ∈ calls,
    Loggers.nameOf settings.loggerName = Loggers.nameOf name → settings.loggerName = name

instance (calls : List Settings) (name : String) : Decidable (SpeltAs calls name) :=
  inferInstanceAs (Decidable (∀ settings ∈ calls, _ → _))

theorem leader?_eq_some {calls : List Settings} {name : String} {first : Settings}
    (leads : leader? calls name = some first) :
    first ∈ calls ∧ Loggers.nameOf first.loggerName = Loggers.nameOf name :=
  ⟨List.mem_of_find?_eq_some leads, by simpa using List.find?_some leads⟩

theorem leader?_eq_none_iff {calls : List Settings} {name : String} :
    leader? calls name = none ↔
      ¬ ∃ settings ∈ calls, Loggers.nameOf settings.loggerName = Loggers.nameOf name := by
  simp [leader?]

theorem leader?_congr {calls : List Settings} {name other : String}
    (same : Loggers.nameOf name = Loggers.nameOf other) :
    leader? calls name = leader? calls other := by
  rw [leader?, same, ← leader?]

theorem leader?_concat (calls : List Settings) (settings : Settings) (name : String) :
    leader? (calls ++ [settings]) name =
      (leader? calls name).or
        (if Loggers.nameOf settings.loggerName = Loggers.nameOf name then some settings
          else none) := by
  rw [leader?, List.find?_append, ← leader?]
  by_cases same : Loggers.nameOf settings.loggerName = Loggers.nameOf name <;> simp [same]

/-- Further settings for a logger do not count. -/
theorem leader?_concat_of_led {calls : List Settings} {settings first : Settings}
    (leads : leader? calls settings.loggerName = some first) (name : String) :
    leader? (calls ++ [settings]) name = leader? calls name := by
  rw [leader?_concat]
  split
  · next same => rw [← leader?_congr same, leads, Option.some_or]
  · rw [Option.or_none]

theorem SpeltAs.concat_left {calls : List Settings} {settings : Settings} {name : String}
    (spelt : SpeltAs (calls ++ [settings]) name) : SpeltAs calls name :=
  fun other called => spelt other (List.mem_append_left _ called)

namespace System

/-! ## One configuration -/

/-- A configuration changes one logger, whatever comes of it. -/
theorem exists_loggers_configure_eq (system : System) (settings : Settings) :
    ∃ change, (system.configure settings).1.loggers =
      system.loggers.modify settings.loggerName change := by
  cases configured : system.configured.find? settings.loggerName with
  | some key =>
      refine ⟨id, ?_⟩
      simp only [configure, configured]
      split <;> rfl
  | none =>
      rw [configure_of_unconfigured configured]
      generalize Opening.ofDisk system.output.disk settings = opened
      dsimp only
      cases opened.1.outcome with
      | error failure =>
          simp only [attachAll]
          exact ⟨_, rfl⟩
      | ok done =>
          simp only [complete, attach, attachAll]
          split
          · simp only [Loggers.modify_modify]
            exact ⟨_, rfl⟩
          · simp only [Loggers.modify_modify]
            exact ⟨_, rfl⟩

theorem find?_configure_of_ne (system : System) (settings : Settings) {name : String}
    (differs : Loggers.nameOf settings.loggerName ≠ Loggers.nameOf name) :
    Catalog.find? (system.configure settings).1.loggers (Loggers.nameOf name) =
      Catalog.find? system.loggers (Loggers.nameOf name) := by
  obtain ⟨change, changed⟩ := system.exists_loggers_configure_eq settings
  rw [changed, Loggers.find?_modify_of_ne _ differs]

/-- A name that is configured already: nothing changes, and settings of another key are refused. -/
theorem configure_of_configured {system : System} {settings : Settings} {key : Settings.HandlerKey}
    {logger : Logger} (configured : system.configured.find? settings.loggerName = some key)
    (known : Catalog.find? system.loggers (Loggers.nameOf settings.loggerName) = some logger) :
    system.configure settings =
      (system, if settings.handlerKey = key then .ok ()
        else .error (.misconfigured (.loggerTaken settings.loggerName))) := by
  have touched : system.loggers.touch settings.loggerName = system.loggers := by
    rw [Loggers.touch_eq_modify]
    exact Loggers.modify_eq_self known rfl
  simp only [configure, touched, configured, eq_comm (a := key)]
  split <;> rfl

/-- The settings are not the first ones for their name, or their folder can be made and their files
can be opened. -/
def opens (system : System) (settings : Settings) : Bool :=
  (system.configured.find? settings.loggerName).isSome ||
    (Opening.ofDisk system.output.disk settings).1.outcome.isOk

theorem exists_configure_of_opens {system : System} {settings : Settings}
    (unconfigured : system.configured.find? settings.loggerName = none)
    (opened : system.opens settings = true) :
    ∃ ready, system.configure settings = (ready, .ok ()) := by
  simp only [opens, unconfigured, Option.isSome_none, Bool.false_or] at opened
  rw [configure_of_unconfigured unconfigured]
  cases ended : (Opening.ofDisk system.output.disk settings).1.outcome with
  | error failure =>
      rw [ended] at opened
      cases opened
  | ok done =>
      simp only [ended]
      exact ⟨_, rfl⟩

/-! ## Configurations one after the other -/

/-- The system after configurations, whatever comes of them. -/
def configureAll (system : System) : List Settings → System
  | [] => system
  | settings :: rest => configureAll (system.configure settings).1 rest

/-- Whenever settings are the first ones for their name, their files can be opened. -/
def opensAll (system : System) : List Settings → Bool
  | [] => true
  | settings :: rest => system.opens settings && opensAll (system.configure settings).1 rest

/-- Nothing is configured, and no logger has handlers. -/
structure IsFresh (system : System) : Prop where
  /-- No name is configured. -/
  configured : system.configured = []
  /-- No logger has handlers. -/
  handlers : ∀ name, (system.loggers.get name).handlers = []

theorem isFresh_start : (start []).IsFresh where
  configured := rfl
  handlers name := by
    rw [Loggers.get, start, Loggers.start, Catalog.find?]
    split <;> rfl

/-- What configurations have made of a system: the first ones for each logger shape it. -/
structure ShapedBy (start system : System) (calls : List Settings) : Prop where
  /-- A name counts as configured by the first settings for its logger. -/
  table : ∀ name, SpeltAs calls name →
    system.configured.find? name = (leader? calls name).map Settings.handlerKey
  /-- A logger has what the first settings for it say. -/
  led : ∀ name first, leader? calls name = some first → ∃ access error,
    Catalog.find? system.loggers (Loggers.nameOf name) =
      some ⟨loggerLevel first, false, attachedHandlers first access error⟩
  /-- All other loggers are as they were. -/
  others : ∀ name, leader? calls name = none →
    Catalog.find? system.loggers (Loggers.nameOf name) =
      Catalog.find? start.loggers (Loggers.nameOf name)

namespace ShapedBy

variable {start system : System} {calls : List Settings}

theorem refl (fresh : start.IsFresh) : start.ShapedBy start [] where
  table name _ := by rw [fresh.configured]; rfl
  led name first leads := by cases leads
  others name _ := rfl

theorem get_of_led (shaped : start.ShapedBy system calls) {name : String} {first : Settings}
    (leads : leader? calls name = some first) :
    ∃ access error, system.loggers.get name =
      ⟨loggerLevel first, false, attachedHandlers first access error⟩ := by
  obtain ⟨access, error, known⟩ := shaped.led name first leads
  exact ⟨access, error, by rw [Loggers.get, known, Option.getD_some]⟩

theorem get_of_unled (shaped : start.ShapedBy system calls) {name : String}
    (unled : leader? calls name = none) : system.loggers.get name = start.loggers.get name := by
  rw [Loggers.get, shaped.others name unled, ← Loggers.get]

/-- Further settings for a logger change nothing, and those of another key are refused. -/
theorem configure_of_led (shaped : start.ShapedBy system calls) {settings first : Settings}
    (spelt : SpeltAs calls settings.loggerName)
    (leads : leader? calls settings.loggerName = some first) :
    system.configure settings =
      (system, if settings.handlerKey = first.handlerKey then .ok ()
        else .error (.misconfigured (.loggerTaken settings.loggerName))) := by
  obtain ⟨access, error, known⟩ := shaped.led _ first leads
  have configured := shaped.table _ spelt
  rw [leads, Option.map_some] at configured
  exact configure_of_configured configured known

/-- The first settings for a logger shape it. -/
theorem configure_of_unled (fresh : start.IsFresh) (shaped : start.ShapedBy system calls)
    {settings : Settings} (spelt : SpeltAs calls settings.loggerName)
    (unled : leader? calls settings.loggerName = none) (opened : system.opens settings = true) :
    start.ShapedBy (system.configure settings).1 (calls ++ [settings]) := by
  have unconfigured : system.configured.find? settings.loggerName = none := by
    rw [shaped.table _ spelt, unled, Option.map_none]
  obtain ⟨ready, done⟩ := exists_configure_of_opens unconfigured opened
  obtain ⟨access, error, disk, made⟩ := configure_eq_ok unconfigured done
  have no_handlers : (system.loggers.get settings.loggerName).handlers = [] := by
    rw [shaped.get_of_unled unled, fresh.handlers]
  have shaped_logger : Catalog.find? ready.loggers (Loggers.nameOf settings.loggerName) =
      some ⟨loggerLevel settings, false, attachedHandlers settings access error⟩ := by
    rw [made, Loggers.find?_modify, no_handlers, List.nil_append]
  have others_kept {name : String}
      (differs : Loggers.nameOf settings.loggerName ≠ Loggers.nameOf name) :
      Catalog.find? ready.loggers (Loggers.nameOf name) =
        Catalog.find? system.loggers (Loggers.nameOf name) := by
    have kept := system.find?_configure_of_ne settings differs
    rwa [done] at kept
  rw [done]
  -- The table goes by the names as written, the loggers by the names that they are kept under.
  refine ⟨fun name spelt_now => ?_, fun name first leads => ?_, fun name unled_now => ?_⟩
  · rw [made, Catalog.find?_put, leader?_concat, shaped.table name spelt_now.concat_left]
    by_cases same : settings.loggerName = name
    · subst same
      simp [unled]
    · have differs : Loggers.nameOf settings.loggerName ≠ Loggers.nameOf name :=
        fun alike => same (spelt_now settings (by simp) alike)
      simp [same, differs]
  · rw [leader?_concat] at leads
    by_cases same : Loggers.nameOf settings.loggerName = Loggers.nameOf name
    · rw [← leader?_congr same, unled, Option.none_or, if_pos same] at leads
      obtain rfl := Option.some.inj leads
      exact ⟨access, error, same ▸ shaped_logger⟩
    · rw [if_neg same, Option.or_none] at leads
      rw [others_kept same]
      exact shaped.led name first leads
  · rw [leader?_concat, Option.or_eq_none_iff] at unled_now
    have differs : Loggers.nameOf settings.loggerName ≠ Loggers.nameOf name :=
      fun same => by simp [same] at unled_now
    rw [others_kept differs, shaped.others name unled_now.1]

theorem configure (fresh : start.IsFresh) (shaped : start.ShapedBy system calls)
    {settings : Settings} (spelt : SpeltAs calls settings.loggerName)
    (opened : system.opens settings = true) :
    start.ShapedBy (system.configure settings).1 (calls ++ [settings]) := by
  cases leads : leader? calls settings.loggerName with
  | none => exact shaped.configure_of_unled fresh spelt leads opened
  | some first =>
      have same_leaders := leader?_concat_of_led leads
      rw [shaped.configure_of_led spelt leads]
      refine ⟨fun name spelt_now => ?_, fun name other leading => ?_, fun name unled => ?_⟩
      · rw [same_leaders]
        exact shaped.table name spelt_now.concat_left
      · exact shaped.led name other (same_leaders name ▸ leading)
      · exact shaped.others name (same_leaders name ▸ unled)

theorem configureAll (fresh : start.IsFresh) (shaped : start.ShapedBy system calls)
    {rest : List Settings}
    (spelt : ∀ settings ∈ calls ++ rest, SpeltAs (calls ++ rest) settings.loggerName)
    (opened : system.opensAll rest = true) :
    start.ShapedBy (system.configureAll rest) (calls ++ rest) := by
  induction rest generalizing system calls with
  | nil => simpa [System.configureAll] using shaped
  | cons settings rest ih =>
      simp only [opensAll, Bool.and_eq_true] at opened
      have spelt_before : SpeltAs calls settings.loggerName := fun other called =>
        spelt settings (by simp) other (List.mem_append_left _ called)
      have step := shaped.configure fresh spelt_before opened.1
      have whole : calls ++ settings :: rest = calls ++ [settings] ++ rest := by simp
      rw [whole] at spelt ⊢
      exact ih step spelt opened.2

end ShapedBy

/-- The first configuration of a logger counts.  After any configurations, a logger has handlers
exactly if settings for it were among them; then the first of these say what it is, and further ones
for it change nothing: they are accepted if they differ from the first in nothing that the logger
sees, and refused otherwise.  No configuration changes another logger. -/
theorem first_configuration_counts {start : System} (fresh : start.IsFresh) {calls : List Settings}
    (spelt : ∀ settings ∈ calls, SpeltAs calls settings.loggerName)
    (opened : start.opensAll calls = true) :
    let reached := start.configureAll calls
    (∀ name, (reached.loggers.get name).handlers ≠ [] ↔
      ∃ settings ∈ calls, Loggers.nameOf settings.loggerName = Loggers.nameOf name) ∧
    (∀ name first, leader? calls name = some first →
      (∃ access error, reached.loggers.get name =
        ⟨loggerLevel first, false, attachedHandlers first access error⟩) ∧
      ∀ later, later.loggerName = first.loggerName →
        reached.configure later =
            (reached, if later.handlerKey = first.handlerKey then .ok ()
              else .error (.misconfigured (.loggerTaken later.loggerName))) ∧
          (later.handlerKey = first.handlerKey ↔
            later = { first with
              handleExceptions := later.handleExceptions
              trustProxy := later.trustProxy
              format := later.format })) ∧
    (∀ name, leader? calls name = none →
      reached.loggers.get name = start.loggers.get name) ∧
    ∀ settings name, Loggers.nameOf settings.loggerName ≠ Loggers.nameOf name →
      (reached.configure settings).1.loggers.get name = reached.loggers.get name := by
  intro reached
  have shaped : start.ShapedBy reached calls :=
    (ShapedBy.refl fresh).configureAll fresh spelt opened
  refine ⟨fun name => ?_, fun name first leads => ⟨shaped.get_of_led leads, fun later named => ?_⟩,
    fun name => shaped.get_of_unled, fun settings name differs => ?_⟩
  · cases leads : leader? calls name with
    | none =>
        rw [shaped.get_of_unled leads, fresh.handlers]
        simpa using leader?_eq_none_iff.mp leads
    | some first =>
        obtain ⟨access, error, got⟩ := shaped.get_of_led leads
        obtain ⟨called, same⟩ := leader?_eq_some leads
        rw [got]
        simp only [attachedHandlers, List.cons_append, ne_eq, reduceCtorEq, not_false_eq_true,
          true_iff]
        exact ⟨first, called, same⟩
  · obtain ⟨called, same⟩ := leader?_eq_some leads
    have leads_later : leader? calls later.loggerName = some first := by
      rw [leader?, named, same, ← leader?, leads]
    exact ⟨shaped.configure_of_led (named ▸ spelt first called) leads_later,
      Settings.handlerKey_eq_iff named⟩
  · rw [Loggers.get, find?_configure_of_ne _ _ differs, ← Loggers.get]

/-- Two loggers, one below the other, are configured in turn; settings that differ in the format of
the records are accepted for the first one, and settings with another folder are refused. -/
theorem first_configuration_counts_of_two_loggers :
    let first : Settings := { Settings.defaults with console := false, loggerName := "shop" }
    let below : Settings :=
      { Settings.defaults with folder := "orders", loggerName := "shop.orders" }
    let again : Settings := { first with trustProxy := true, format := .listed ["url"] }
    let moved : Settings := { first with folder := "moved" }
    let reached := (start []).configureAll [first, below, again, moved]
    (∃ access error, reached.loggers.get "shop" =
      ⟨10, false, attachedHandlers first access error⟩) ∧
    (reached.loggers.get "shop.carts").handlers = [] ∧
    reached.configure again = (reached, .ok ()) ∧
    reached.configure moved = (reached, .error (.misconfigured (.loggerTaken "shop"))) := by
  intro first below again moved reached
  have spelt : ∀ settings ∈ [first, below, again, moved],
      SpeltAs [first, below, again, moved] settings.loggerName := by decide +kernel
  have opened : (start []).opensAll [first, below, again, moved] = true := by decide +kernel
  have leads : leader? [first, below, again, moved] "shop" = some first := by decide +kernel
  have unled : leader? [first, below, again, moved] "shop.carts" = none := by decide +kernel
  obtain ⟨-, led, others, -⟩ := first_configuration_counts isFresh_start spelt opened
  obtain ⟨shape, further⟩ := led "shop" first leads
  refine ⟨shape, ?_, (further again rfl).1, (further moved rfl).1⟩
  rw [show reached.loggers.get "shop.carts" = _ from others "shop.carts" unled]
  exact isFresh_start.handlers _

end System
end Logging
end RequestLog
