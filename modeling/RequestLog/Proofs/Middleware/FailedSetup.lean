import RequestLog.Proofs.Middleware.ReservedNames
import RequestLog.Proofs.Middleware.Sharing
import RequestLog.Proofs.Registry.Answers

/-!
# What failed setups leave behind

Setting a middleware up reads the settings, resolves the format and configures the access logger, in
this order.  Only resolving a list of tokens adds to the registry, and only when it succeeds; so
there is one failure that leaves the registry changed, that of the access logger after a list.  Each
further attempt that fails like this takes another reserved name.
-/

namespace RequestLog
namespace Middleware

variable {σ : Type} {registry grown : Registry σ} {outlet : Option (Outlet σ)} {settings : Settings}
  {world later : World σ} {failure : Failure} {format : Format}

/-- The settings register a format of their own, but their access logger cannot be configured. -/
structure LeavesFormat (registry : Registry σ) (outlet : Option (Outlet σ)) (settings : Settings)
    (world : World σ) (format : Format) : Prop where
  /-- The format is written as a list of tokens. -/
  listed : ∃ tokens, settings.format = .listed tokens ∧ tokens ≠ [] ∧
    Format.ofTexts tokens = .ok format
  /-- All its keys are registered. -/
  complete : registry.missingKeys format = []
  /-- The records are to go to the access logger. -/
  unsupplied : outlet = none
  /-- The access logger cannot be configured. -/
  refused : (world.logs.configure settings).2.isOk = false

/-- The registry with a format under the first reserved name that is free. -/
def withFormat (registry : Registry σ) (format : Format) : Registry σ :=
  { registry with formats := registry.formats ++ [(freeName registry, format)] }

/-! ## Resolving the format -/

theorem freeName_ne_empty (registry : Registry σ) : freeName registry ≠ "" := by
  obtain ⟨steps, -, named, -⟩ := exists_freeName_eq registry
  rw [named, reservedNameAt]
  split <;> simp [reservedName]

theorem resolveFormat_listed {tokens : List String} (some_token : tokens ≠ [])
    (written : Format.ofTexts tokens = .ok format) (complete : registry.missingKeys format = []) :
    resolveFormat registry (.listed tokens) =
      (withFormat registry format, .ok (freeName registry)) := by
  have accepted : registry.registerFormat (.str (freeName registry)) (.list (tokens.map .str)) =
      .ok (withFormat registry format) := by
    rw [registry.registerFormat_of_free (freeName_ne_empty registry) (Or.inl rfl) some_token
      (freeName_not_mem registry), written]
    simp only [complete, withFormat]
  simp only [resolveFormat, accepted]

theorem resolveFormat_named_fst (registry : Registry σ) (name : String) :
    (resolveFormat registry (.named name)).1 = registry := by
  rw [resolveFormat]
  split <;> rfl

/-- A format that cannot be resolved is not registered. -/
theorem registry_of_unresolved {choice : Settings.FormatChoice}
    (unresolved : resolveFormat registry choice = (grown, .error failure)) : grown = registry := by
  cases choice with
  | named name =>
      have same := resolveFormat_named_fst registry name
      rwa [unresolved] at same
  | listed tokens =>
      simp only [resolveFormat] at unresolved
      split at unresolved
      · cases (Prod.mk.inj unresolved).2
      · exact (Prod.mk.inj unresolved).1.symm

/-- A list that is resolved is a format whose keys are all registered. -/
theorem resolveFormat_listed_eq_ok {tokens : List String} {name : String}
    (resolved : resolveFormat registry (.listed tokens) = (grown, .ok name)) :
    ∃ format, tokens ≠ [] ∧ Format.ofTexts tokens = .ok format ∧
      registry.missingKeys format = [] ∧ grown = withFormat registry format := by
  simp only [resolveFormat] at resolved
  split at resolved
  · next accepted =>
      obtain ⟨label, texts, format, -, listed, -, written, complete, -⟩ :=
        Registry.registerFormat_eq_ok accepted
      obtain ⟨rfl, some_token⟩ := Registry.tokenTexts?_list_eq_some_iff.mp listed
      have same := resolveFormat_listed some_token written complete
      rw [resolveFormat, accepted] at same
      obtain ⟨rfl, -⟩ := Prod.mk.inj resolved
      exact ⟨format, some_token, written, complete, (Prod.mk.inj same).1⟩
  · cases (Prod.mk.inj resolved).2

/-! ## Failures -/

/-- A setup fails at the format or, if that is resolved, at the access logger. -/
theorem create_eq_error
    (failed : create registry outlet settings world = (.error failure, grown, later)) :
    resolveFormat registry settings.format = (grown, .error failure) ∨
      ((∃ name, resolveFormat registry settings.format = (grown, .ok name)) ∧ outlet = none ∧
        (world.logs.configure settings).2.isOk = false) := by
  rw [create] at failed
  split at failed
  · next unresolved =>
      obtain ⟨same, rfl, -⟩ := Prod.mk.inj failed |>.imp_right Prod.mk.inj
      obtain rfl := Except.error.inj same
      exact Or.inl unresolved
  · next resolved =>
      split at failed
      · next unsupplied =>
          obtain ⟨same, rfl, -⟩ := Prod.mk.inj failed |>.imp_right Prod.mk.inj
          refine Or.inr ⟨⟨_, resolved⟩, ?_⟩
          cases outlet with
          | some given => cases (Prod.mk.inj unsupplied).1
          | none =>
              refine ⟨rfl, ?_⟩
              simp only [resolveOutlet] at unsupplied
              split at unsupplied
              · next refused => rw [refused]; rfl
              · cases (Prod.mk.inj unsupplied).1
      · cases (Prod.mk.inj failed).1

/-- What a failed setup with settings leaves in the registry. -/
theorem registry_of_failed_create
    (failed : create registry outlet settings world = (.error failure, grown, later)) :
    (grown = registry ∧ ∀ format, ¬LeavesFormat registry outlet settings world format) ∨
      ∃ format, LeavesFormat registry outlet settings world format ∧
        grown = withFormat registry format := by
  rcases create_eq_error failed with unresolved | ⟨⟨name, resolved⟩, unsupplied, refused⟩
  · refine Or.inl ⟨registry_of_unresolved unresolved, fun format leaves => ?_⟩
    obtain ⟨tokens, choice, some_token, written⟩ := leaves.listed
    rw [choice, resolveFormat_listed some_token written leaves.complete] at unresolved
    cases (Prod.mk.inj unresolved).2
  · cases choice : settings.format with
    | named chosen =>
        have same := resolveFormat_named_fst registry chosen
        rw [← choice, resolved] at same
        refine Or.inl ⟨same, fun format leaves => ?_⟩
        obtain ⟨tokens, listed, -⟩ := leaves.listed
        rw [choice] at listed
        cases listed
    | listed tokens =>
        rw [choice] at resolved
        obtain ⟨format, some_token, written, complete, rfl⟩ := resolveFormat_listed_eq_ok resolved
        exact Or.inr ⟨format,
          ⟨⟨tokens, choice, some_token, written⟩, complete, unsupplied, refused⟩, rfl⟩

/-- What a failed setup leaves in the registry.  It is the registry as it was unless the settings
are in order, register a format of their own and describe an access logger that cannot be
configured; then that format stays, at the end and under a name that was free. -/
theorem failed_setUp_leaves {given : Option Settings} {options : Settings.Options}
    {environment : Settings.Environment}
    (failed : setUp registry outlet given options environment world =
      (.error failure, grown, later)) :
    (grown = registry ∧ ∀ settings format, settingsOf given options environment = .ok settings →
      ¬LeavesFormat registry outlet settings world format) ∨
    ∃ settings format, settingsOf given options environment = .ok settings ∧
      LeavesFormat registry outlet settings world format ∧
      freeName registry ∉ registry.formats.names ∧
      grown = { registry with formats := registry.formats ++ [(freeName registry, format)] } := by
  rw [setUp] at failed
  cases read : settingsOf given options environment with
  | error cause =>
      rw [read] at failed
      refine Or.inl ⟨(Prod.mk.inj (Prod.mk.inj failed).2).1.symm, fun settings format same => ?_⟩
      cases same
  | ok settings =>
      rw [read] at failed
      rcases registry_of_failed_create failed with ⟨same, stays⟩ | ⟨format, leaves, rfl⟩
      · refine Or.inl ⟨same, fun other format same_settings => ?_⟩
        obtain rfl := Except.ok.inj same_settings
        exact stays format
      · exact Or.inr ⟨settings, format, rfl, leaves, freeName_not_mem registry, rfl⟩

/-- A list of tokens is registered, and then the folder of the log files cannot be made, as a file
stands in its place. -/
theorem failed_setUp_leaves_of_file :
    let registry : Registry Unit := ⟨Extractor.builtins Credentials.userName, []⟩
    let settings : Settings := { Settings.defaults with format := .listed ["status"] }
    let occupied : Disk := ⟨[(["logs"], .file 0)], [(0, "x")], 1⟩
    let world : World Unit := ⟨Clock.start ⟨0⟩, (), (Logging.System.start []).withDisk occupied⟩
    ∃ failure grown later,
      setUp registry none (some settings) [] [] world = (.error failure, grown, later) ∧
      grown.formats.names = ["accesslog"] := by
  intro registry settings occupied world
  have leaves : LeavesFormat registry none settings world [("status", ⟨"status", "status", []⟩)] :=
    ⟨⟨["status"], rfl, by decide, rfl⟩, rfl, rfl, by decide +kernel⟩
  have refused : (setUp registry none (some settings) [] [] world).1.isOk = false :=
    by decide +kernel
  have free : freeName registry = "accesslog" := by decide +kernel
  rcases result : setUp registry none (some settings) [] [] world with ⟨outcome, grown, later⟩
  cases outcome with
  | ok middleware =>
      rw [result] at refused
      cases refused
  | error failure =>
      refine ⟨failure, grown, later, rfl, ?_⟩
      rcases failed_setUp_leaves result with ⟨-, stays⟩ | ⟨-, format, -, -, -, rfl⟩
      · exact absurd leaves (stays settings _ rfl)
      · rw [free]
        rfl

/-- A failed setup need not leave the registry as it was: the format stays, and another one after a
second attempt. -/
theorem failed_setUp_registers_format :
    let registry : Registry Unit := ⟨Extractor.builtins Credentials.userName, []⟩
    let occupied : Disk := ⟨[(["logs"], .file 0)], [(0, "x")], 1⟩
    let world : World Unit := ⟨Clock.start ⟨0⟩, (), (Logging.System.start []).withDisk occupied⟩
    let first := setUp registry none none [("format", .list [.str "status"])] [] world
    let second := setUp first.2.1 none none [("format", .list [.str "status"])] [] first.2.2
    first.1.isOk = false ∧ second.1.isOk = false ∧ registry.formats.names = [] ∧
      first.2.1.formats.names = ["accesslog"] ∧
      second.2.1.formats.names = ["accesslog", "accesslog:2"] := by
  decide +kernel

/-! ## Attempts one after the other -/

theorem LeavesFormat.withFormat (leaves : LeavesFormat registry outlet settings world format)
    (other : Format) : LeavesFormat (withFormat registry other) outlet settings world format :=
  ⟨leaves.listed, leaves.complete, leaves.unsupplied, leaves.refused⟩

theorem registry_of_create_of_leavesFormat
    (leaves : LeavesFormat registry outlet settings world format) :
    (create registry outlet settings world).2.1 = Middleware.withFormat registry format := by
  obtain ⟨tokens, choice, some_token, written⟩ := leaves.listed
  rw [registry_of_create, ← resolveFormat_fst, choice,
    resolveFormat_listed some_token written leaves.complete]

/-- Attempts that fail at the access logger register the format again and again, under one name
each. -/
theorem formats_of_failed_attempts {worlds : List (World σ)}
    (leaves : ∀ world ∈ worlds, LeavesFormat registry none settings world format) :
    ∃ names : List String, names.length = worlds.length ∧ names.Nodup ∧
      (∀ name ∈ names, name ∉ registry.formats.names) ∧
      registry.afterUses (worlds.map (.setUp none settings)) =
        { registry with formats := registry.formats ++ names.map fun name => (name, format) } := by
  -- The format that an attempt leaves takes the name that was free, and keeps the next one off it.
  induction worlds generalizing registry with
  | nil => exact ⟨[], by simp [Registry.afterUses]⟩
  | cons world rest ih =>
      have first := registry_of_create_of_leavesFormat (leaves world List.mem_cons_self)
      obtain ⟨names, count, distinct, unused, grown⟩ :=
        ih fun other within => (leaves other (List.mem_cons_of_mem _ within)).withFormat format
      have later_unused {name : String} (later : name ∈ names) :
          name ∉ registry.formats.names ∧ name ≠ freeName registry := by
        simpa [Middleware.withFormat, Catalog.names, not_or] using unused name later
      refine ⟨freeName registry :: names, by simp [count], ?_, ?_, ?_⟩
      · exact List.nodup_cons.mpr ⟨fun repeated => (later_unused repeated).2 rfl, distinct⟩
      · intro name within
        rcases List.mem_cons.mp within with rfl | later
        · exact freeName_not_mem registry
        · exact (later_unused later).1
      · rw [List.map_cons, Registry.afterUses, Registry.afterUse, first, grown]
        simp [Middleware.withFormat]

end Middleware
end RequestLog
