import RequestLog.Middleware.Setup
import RequestLog.Proofs.Middleware.Completion
import RequestLog.Proofs.Registry.Evaluation
import RequestLog.Proofs.Registry.Permanence
import RequestLog.Proofs.Registry.Texts

/-!
# Middlewares that share a registry

Several middlewares may be set up on one registry, in any order with registrations by others, who
may take reserved names too.  Setting a middleware up registers at most one format, under a name
that was free; so the uses of a registry are a history of registrations, and every middleware keeps
its format.
-/

namespace RequestLog

namespace Middleware

variable {σ : Type}

/-- The registrations that are made to resolve a format: that of a list, and none for a name. -/
def registrationsOf (registry : Registry σ) : Settings.FormatChoice → List (Registration σ)
  | .named _ => []
  | .listed tokens => [.format (.str (freeName registry)) (.list (tokens.map .str))]

theorem resolveFormat_fst (registry : Registry σ) (choice : Settings.FormatChoice) :
    (resolveFormat registry choice).1 = registry.after (registrationsOf registry choice) := by
  cases choice with
  | named name =>
      rw [resolveFormat]
      split <;> rfl
  | listed tokens =>
      simp only [resolveFormat, registrationsOf, Registry.after, Registry.next, Registration.answer]
      cases registry.registerFormat (.str (freeName registry)) (.list (tokens.map .str)) <;> rfl

/-- A format that is resolved is registered; a list is registered under a name that was free. -/
theorem resolveFormat_eq_ok {registry grown : Registry σ} {choice : Settings.FormatChoice}
    {name : String} (resolved : resolveFormat registry choice = (grown, .ok name)) :
    ∃ format, (name, format) ∈ grown.formats ∧ ∀ texts, choice = .listed texts →
      name ∉ registry.formats.names ∧ Format.ofTexts texts = .ok format := by
  cases choice with
  | named chosen =>
      rw [resolveFormat] at resolved
      split at resolved
      · next known =>
          obtain ⟨rfl, named⟩ := Prod.mk.inj resolved
          obtain rfl := Except.ok.inj named
          obtain ⟨entry, present, rfl⟩ := List.mem_map.mp ((Catalog.has_eq_true_iff _ _).mp known)
          exact ⟨entry.2, present, nofun⟩
      · cases (Prod.mk.inj resolved).2
  | listed tokens =>
      simp only [resolveFormat] at resolved
      split at resolved
      · next later accepted =>
          obtain ⟨rfl, named⟩ := Prod.mk.inj resolved
          obtain rfl := Except.ok.inj named
          obtain ⟨label, texts, format, named, listed, free, written, -, rfl⟩ :=
            Registry.registerFormat_eq_ok accepted
          obtain ⟨⟨⟩, -⟩ := Registry.nameOf?_eq_some_iff.mp named
          obtain rfl := (Registry.tokenTexts?_list_eq_some_iff.mp listed).1
          refine ⟨format, List.mem_append_right _ (List.mem_singleton.mpr rfl), ?_⟩
          rintro _ ⟨⟩
          exact ⟨free, written⟩
      · cases (Prod.mk.inj resolved).2

theorem registry_of_create (registry : Registry σ) (outlet : Option (Outlet σ))
    (settings : Settings) (world : World σ) :
    (create registry outlet settings world).2.1 =
      registry.after (registrationsOf registry settings.format) := by
  rw [← resolveFormat_fst, create]
  obtain ⟨grown, named⟩ := resolveFormat registry settings.format
  cases named with
  | error failure => rfl
  | ok name =>
      dsimp only
      split <;> rfl

/-- A middleware that is set up has the registry and the format that were resolved. -/
theorem create_eq_ok {registry : Registry σ} {outlet : Option (Outlet σ)} {settings : Settings}
    {world : World σ} {middleware : Middleware σ}
    (created : (create registry outlet settings world).1 = .ok middleware) :
    resolveFormat registry settings.format = (middleware.registry, .ok middleware.formatName) := by
  rw [create] at created
  split at created
  · cases created
  · next grown name resolved =>
      split at created
      · cases created
      · obtain rfl := Except.ok.inj created
        exact resolved

/-- The registry of a middleware has the history of the one that it was set up with. -/
theorem exists_history_of_create {registry : Registry σ} {history : List (Registration σ)}
    {outlet : Option (Outlet σ)} {settings : Settings} {world : World σ} {middleware : Middleware σ}
    (created : (create (registry.after history) outlet settings world).1 = .ok middleware) :
    ∃ longer, middleware.registry = registry.after longer := by
  have resolved := congrArg Prod.fst (create_eq_ok created)
  rw [resolveFormat_fst, ← Registry.after_append] at resolved
  exact ⟨_, resolved.symm⟩

/-- A middleware trusts proxies as its settings say. -/
theorem trustProxy_of_create {registry : Registry σ} {outlet : Option (Outlet σ)}
    {settings : Settings} {world : World σ} {middleware : Middleware σ}
    (created : (create registry outlet settings world).1 = .ok middleware) :
    middleware.trustProxy = settings.trustProxy := by
  rw [create] at created
  split at created
  · cases created
  · split at created
    · cases created
    · obtain rfl := Except.ok.inj created
      rfl

end Middleware

/-- A use of a registry that is shared. -/
inductive Registry.Use (σ : Type) where
  /-- Register an extractor or a format. -/
  | register (registration : Registration σ)
  /-- Set a middleware up. -/
  | setUp (outlet : Option (Middleware.Outlet σ)) (settings : Settings) (world : World σ)

/-- A middleware that was set up. -/
structure Installation (σ : Type) where
  /-- The registry on which it was set up, as it was before. -/
  before : Registry σ
  /-- The settings. -/
  settings : Settings
  /-- The middleware. -/
  middleware : Middleware σ

/-- The middleware was given a list of tokens. -/
def Installation.isListed {σ : Type} (installation : Installation σ) : Bool :=
  match installation.settings.format with
  | .listed _ => true
  | .named _ => false

namespace Registry

variable {σ : Type}

/-- The registry after a use. -/
def afterUse (registry : Registry σ) : Use σ → Registry σ
  | .register registration => registry.next registration
  | .setUp outlet settings world => (Middleware.create registry outlet settings world).2.1

/-- The registry after uses. -/
def afterUses (registry : Registry σ) : List (Use σ) → Registry σ
  | [] => registry
  | use :: rest => afterUses (registry.afterUse use) rest

/-- The middleware that a use sets up. -/
def installation? (registry : Registry σ) : Use σ → Option (Installation σ)
  | .register _ => none
  | .setUp outlet settings world =>
      match (Middleware.create registry outlet settings world).1 with
      | .ok middleware => some ⟨registry, settings, middleware⟩
      | .error _ => none

/-- The middlewares that uses set up, in order. -/
def installations (registry : Registry σ) : List (Use σ) → List (Installation σ)
  | [] => []
  | use :: rest =>
      (registry.installation? use).toList ++ installations (registry.afterUse use) rest

/-- A use is a history of registrations. -/
theorem exists_afterUse_eq_after (registry : Registry σ) (use : Use σ) :
    ∃ history, registry.afterUse use = registry.after history := by
  cases use with
  | register registration => exact ⟨[registration], rfl⟩
  | setUp outlet settings world =>
      exact ⟨_, Middleware.registry_of_create registry outlet settings world⟩

/-- Uses are a history of registrations. -/
theorem exists_afterUses_eq_after (registry : Registry σ) (uses : List (Use σ)) :
    ∃ history, registry.afterUses uses = registry.after history := by
  induction uses generalizing registry with
  | nil => exact ⟨[], rfl⟩
  | cons use rest ih =>
      obtain ⟨first, stepped⟩ := registry.exists_afterUse_eq_after use
      obtain ⟨others, followed⟩ := ih (registry.afterUse use)
      exact ⟨first ++ others, by rw [afterUses, followed, stepped, after_append]⟩

theorem extends_afterUses (registry : Registry σ) (uses : List (Use σ)) :
    Extends registry (registry.afterUses uses) := by
  obtain ⟨history, grown⟩ := registry.exists_afterUses_eq_after uses
  exact grown ▸ extends_after registry history

theorem Sound.afterUses {registry : Registry σ} (sound : registry.Sound) (uses : List (Use σ)) :
    (registry.afterUses uses).Sound := by
  obtain ⟨history, grown⟩ := registry.exists_afterUses_eq_after uses
  exact grown ▸ sound.after history

/-- What a use that sets a middleware up does. -/
theorem installation?_eq_some {registry : Registry σ} {use : Use σ} {installation : Installation σ}
    (found : registry.installation? use = some installation) :
    ∃ outlet world, use = .setUp outlet installation.settings world ∧
      installation.before = registry ∧ registry.afterUse use = installation.middleware.registry ∧
      Middleware.resolveFormat registry installation.settings.format =
        (installation.middleware.registry, .ok installation.middleware.formatName) := by
  cases use with
  | register registration => cases found
  | setUp outlet settings world =>
      rw [installation?] at found
      split at found
      · next middleware created =>
          obtain rfl := Option.some.inj found
          have resolved := Middleware.create_eq_ok created
          refine ⟨outlet, world, rfl, rfl, ?_, resolved⟩
          rw [afterUse, Middleware.registry_of_create, ← Middleware.resolveFormat_fst, resolved]
      · cases found

/-- A middleware that uses set up was set up by one of them, on the registry after those before. -/
theorem exists_of_mem_installations {registry : Registry σ} {uses : List (Use σ)}
    {installation : Installation σ} (installed : installation ∈ registry.installations uses) :
    ∃ front back outlet world,
      uses = front ++ .setUp outlet installation.settings world :: back ∧
      installation.before = registry.afterUses front ∧
      registry.afterUses uses = installation.middleware.registry.afterUses back ∧
      Middleware.resolveFormat installation.before installation.settings.format =
        (installation.middleware.registry, .ok installation.middleware.formatName) := by
  induction uses generalizing registry with
  | nil => cases installed
  | cons use rest ih =>
      rcases List.mem_append.mp installed with here | later
      · obtain ⟨outlet, world, rfl, before, grown, resolved⟩ :=
          installation?_eq_some (Option.mem_toList.mp here)
        exact ⟨[], rest, outlet, world, rfl, before, by rw [afterUses, grown],
          before ▸ resolved⟩
      · obtain ⟨front, back, outlet, world, rfl, before, current, resolved⟩ := ih later
        exact ⟨use :: front, back, outlet, world, rfl, before, current, resolved⟩

/-- A middleware for a list was given a name that nobody had used before. -/
theorem formatName_not_mem {registry : Registry σ} {uses : List (Use σ)}
    {installation : Installation σ} (installed : installation ∈ registry.installations uses)
    (listed : installation.isListed = true) :
    installation.middleware.formatName ∉ installation.before.formats.names ∧
      installation.middleware.formatName ∉ registry.formats.names := by
  obtain ⟨front, -, -, -, -, before, -, resolved⟩ := exists_of_mem_installations installed
  obtain ⟨format, -, lists⟩ := Middleware.resolveFormat_eq_ok resolved
  have free : installation.middleware.formatName ∉ installation.before.formats.names := by
    cases choice : installation.settings.format with
    | named name => simp [Installation.isListed, choice] at listed
    | listed texts => exact (lists texts choice).1
  refine ⟨free, fun used => free ?_⟩
  rw [before]
  exact ((registry.extends_afterUses front).formats.map Prod.fst).subset used

/-- Middlewares for lists are given distinct names. -/
theorem nodup_formatNames (registry : Registry σ) (uses : List (Use σ)) :
    (((registry.installations uses).filter Installation.isListed).map
      fun installation => installation.middleware.formatName).Nodup := by
  induction uses generalizing registry with
  | nil => exact List.nodup_nil
  | cons use rest ih =>
      rw [installations]
      cases found : registry.installation? use with
      | none => exact ih _
      | some installation =>
          rw [Option.toList_some, List.singleton_append, List.filter_cons]
          split
          · obtain ⟨-, -, -, -, grown, resolved⟩ := installation?_eq_some found
            obtain ⟨format, kept, -⟩ := Middleware.resolveFormat_eq_ok resolved
            rw [List.map_cons, List.nodup_cons]
            refine ⟨?_, ih _⟩
            -- The name is taken when the later ones are chosen.
            intro repeated
            obtain ⟨other, later, same⟩ := List.mem_map.mp repeated
            obtain ⟨installed, listed⟩ := List.mem_filter.mp later
            refine (formatName_not_mem installed listed).2 ?_
            rw [same, grown]
            exact List.mem_map_of_mem kept
          · exact ih _

end Registry

namespace Middleware

variable {S σ : Type} {middleware : Middleware σ} {registry : Registry σ}

/-- Another registry that compiles the format to the same records makes no difference. -/
theorem wrap_with_registry
    (same : ∀ view state, registry.compile middleware.formatName view state =
      middleware.registry.compile middleware.formatName view state) :
    ({ middleware with registry := registry }).wrap = middleware.wrap := by
  have same_record : ({ middleware with registry := registry }).record = middleware.record := by
    funext exchange world
    simp only [record, World.compile, same]
  have same_complete :
      ({ middleware with registry := registry }).complete = middleware.complete := by
    funext exchange world
    simp only [complete, same_record]
  have same_conclude :
      ({ middleware with registry := registry }).conclude = middleware.conclude := by
    funext exchange ending world
    simp only [conclude, same_complete]
    rfl
  have same_forward : ({ middleware with registry := registry }).forward = middleware.forward := by
    funext exchange message next
    simp only [forward, same_complete]
  have same_guard : ∀ program exchange,
      ({ middleware with registry := registry }).guard program exchange =
        middleware.guard program exchange := by
    intro program
    induction program with
    | finish ending => simp only [guard, same_conclude, implies_true]
    | send message next ih => simp only [guard, same_forward, ih, implies_true]
    | receive next ih => simp only [guard, ih, implies_true]
    | pause next ih => simp only [guard, ih, implies_true]
    | effect change next ih => simp only [guard, ih, implies_true]
  funext app scope
  simp only [wrap, attend, same_guard]

/-- The records that a middleware makes have the fields of its format. -/
theorem names_of_mem_course (server : Server S (World σ)) (sound : middleware.registry.Sound)
    {format : Format} (kept : (middleware.formatName, format) ∈ middleware.registry.formats)
    {app : App (World σ)} {scope : Scope} {known : S} {world : World σ} {severity : Severity}
    {record : Record} (emitted : .emitted severity record ∈
      (middleware.course server app scope known world).incidents) :
    record.names = format.tokens.map Token.raw := by
  obtain ⟨exchange, present, made⟩ := middleware.exists_emission_of_mem_course server emitted
  exact sound.names_of_compile kept (middleware.emitted_of_mem_emission made).2

end Middleware

namespace Installation

variable {σ : Type}

/-- The middleware with the registry as it has become by now. -/
def on (installation : Installation σ) (registry : Registry σ) : Middleware σ :=
  { installation.middleware with registry := registry }

/-- The middleware keeps its format in the registry as it has become. -/
structure KeepsFormat (installation : Installation σ) (current : Registry σ) : Prop where
  /-- The name of the format stands for what it stood for when the middleware was set up. -/
  resolves : ∃ format,
    installation.middleware.registry.resolve installation.middleware.formatName = .ok format ∧
      current.resolve installation.middleware.formatName = .ok format
  /-- No record fails for want of the format. -/
  known : ∀ (world : World σ) request response name,
    (world.compile current installation.middleware.formatName request response).1 ≠
      .error (.unknownFormat name)
  /-- The wrapped apps behave as they did when the middleware was set up. -/
  behaves : (installation.on current).wrap = installation.middleware.wrap
  /-- The records of a list have exactly the fields that the list asks for. -/
  fields : ∀ texts, installation.settings.format = .listed texts →
    ∀ {S : Type} (server : Server S (World σ)) (app : App (World σ)) (scope : Scope) (known : S)
      (world : World σ) (severity : Severity) (record : Record),
      .emitted severity record ∈
          ((installation.on current).course server app scope known world).incidents →
        record.names = Format.fieldTexts texts

/-- A middleware keeps the format that it was set up with, whatever is registered later. -/
theorem keepsFormat_of_resolved {installation : Installation σ}
    (sound : installation.before.Sound)
    (resolved : Middleware.resolveFormat installation.before installation.settings.format =
      (installation.middleware.registry, .ok installation.middleware.formatName))
    (later : List (Registration σ)) :
    installation.KeepsFormat (installation.middleware.registry.after later) := by
  obtain ⟨format, kept, lists⟩ := Middleware.resolveFormat_eq_ok resolved
  have sound_then : installation.middleware.registry.Sound := by
    have steps := Middleware.resolveFormat_fst installation.before installation.settings.format
    rw [resolved] at steps
    rw [show installation.middleware.registry = _ from steps]
    exact sound.after _
  have sound_now : (installation.middleware.registry.after later).Sound := sound_then.after later
  have kept_now := Registry.mem_formats_after kept later
  refine ⟨⟨format, ?_, ?_⟩, fun world request response name unknown => ?_, ?_, ?_⟩
  · rw [Registry.resolve, Catalog.find?_of_mem sound_then.distinct kept]
  · rw [Registry.resolve, Catalog.find?_of_mem sound_now.distinct kept_now]
  · have grave := sound_now.isOrdinary_of_compile kept_now unknown
    cases grave
  · exact Middleware.wrap_with_registry (sound_then.compile_after kept later)
  · intro texts listed S server app scope known world severity record emitted
    rw [← Format.raws_of_ofTexts (lists texts listed).2]
    exact Middleware.names_of_mem_course server sound_now kept_now emitted

end Installation

namespace Registry

variable {σ : Type}

/-- Middlewares can share a registry.  Those for lists are given distinct names that were free, and
no middleware changes what is registered when it is set up.  Each one keeps its format, whatever is
registered and set up afterwards. -/
theorem shared_registry {users : UserReader} {plan : Plan} {fresh : Registry σ}
    (created : create users plan = .ok fresh) (uses : List (Use σ)) :
    let installed := fresh.installations uses
    let current := fresh.afterUses uses
    ((installed.filter Installation.isListed).map
      fun installation => installation.middleware.formatName).Nodup ∧
    (∀ installation ∈ installed, installation.isListed = true →
      installation.middleware.formatName ∉ installation.before.formats.names) ∧
    (∀ outlet settings world,
      Extends current (Middleware.create current outlet settings world).2.1) ∧
    ∀ installation ∈ installed, installation.KeepsFormat current := by
  intro installed current
  refine ⟨nodup_formatNames fresh uses, fun installation present listed =>
    (formatName_not_mem present listed).1, fun outlet settings world => ?_,
    fun installation present => ?_⟩
  · rw [Middleware.registry_of_create]
    exact extends_after current _
  · obtain ⟨front, back, outlet, world, -, before, grown, resolved⟩ :=
      exists_of_mem_installations present
    obtain ⟨later, followed⟩ := installation.middleware.registry.exists_afterUses_eq_after back
    have sound_before : installation.before.Sound := by
      rw [before]
      exact (Sound.create created).afterUses front
    rw [show current = installation.middleware.registry.after later from grown.trans followed]
    exact Installation.keepsFormat_of_resolved sound_before resolved later

/-- The first reserved name is taken by somebody else, the list after that is refused, and a later
reserved name is taken too.  The two lists that are accepted get names of their own, and the first
one keeps its two fields. -/
theorem shared_registry_of_reserved_names :
    let fresh : Registry Unit := ⟨Extractor.builtins Credentials.userName, []⟩
    let setUp (texts : List String) : Use Unit :=
      .setUp (some ⟨.keeping "kept", none⟩) { Settings.defaults with format := .listed texts }
        (World.start ⟨0⟩ () [])
    let uses : List (Use Unit) :=
      [.register (.format (.str "accesslog") (.list [.str "status"])),
        setUp ["url", "method", "URL"], setUp ["no token"],
        .register (.format (.str "accesslog:3") (.list [.str "date"])), setUp ["method"]]
    let server : Server Nat (World Unit) := .refusing 0 [] (.saying .system "gone")
    (fresh.installations uses).map (fun installation =>
        (installation.settings.format, installation.middleware.formatName)) =
      [(.listed ["url", "method", "URL"], "accesslog:2"), (.listed ["method"], "accesslog:4")] ∧
    ["accesslog:2", "accesslog:4"].Nodup ∧
    ∀ installation ∈ fresh.installations uses,
      installation.middleware.formatName = "accesslog:2" → ∀ severity record,
        .emitted severity record ∈ ((installation.on (fresh.afterUses uses)).course server
            (fun _ => Script.program 0 []) [("type", .str "http")] 0
            (World.start ⟨0⟩ () [])).incidents →
          record.names = ["URL", "method"] := by
  intro fresh setUp uses server
  have created : create Credentials.userName [] = .ok fresh := rfl
  obtain ⟨distinct, -, -, keeps⟩ := shared_registry created uses
  have shown : (fresh.installations uses).map (fun installation =>
        (installation.settings.format, installation.middleware.formatName)) =
      [(.listed ["url", "method", "URL"], "accesslog:2"), (.listed ["method"], "accesslog:4")] := by
    decide +kernel
  have names : ((fresh.installations uses).filter Installation.isListed).map (fun installation =>
        installation.middleware.formatName) = ["accesslog:2", "accesslog:4"] := by
    decide +kernel
  have asked : Format.fieldTexts ["url", "method", "URL"] = ["URL", "method"] := by
    decide +kernel
  refine ⟨shown, names ▸ distinct, ?_⟩
  intro installation present named severity record emitted
  have listed : installation.settings.format = .listed ["url", "method", "URL"] := by
    have pair := List.mem_map_of_mem (f := fun installation : Installation Unit =>
      (installation.settings.format, installation.middleware.formatName)) present
    rw [shown] at pair
    simpa [named] using pair
  rw [← asked]
  exact (keeps installation present).fields _ listed server _ _ _ _ severity record emitted

end Registry
end RequestLog
