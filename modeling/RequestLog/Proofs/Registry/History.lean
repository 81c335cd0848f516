import RequestLog.Proofs.Catalog
import RequestLog.Registry

/-!
# Histories of a registry

A history is a list of registrations with arbitrary arguments, answered one after the other.  An
accepted registration adds one entry at the end of one of the two catalogs and a refused one changes
nothing, so every later registry extends every earlier one.
-/

namespace RequestLog

/-- A registration with whatever it is given. -/
inductive Registration (σ : Type) where
  /-- Register an extractor under a name; there is no candidate if it cannot be called. -/
  | extractor (name : Value) (candidate : Option (Extractor σ))
  /-- Register a format under a name. -/
  | format (name tokens : Value)

/-- What a registry answers to a registration. -/
def Registration.answer {σ : Type} (registration : Registration σ) (registry : Registry σ) :
    Except Refusal (Registry σ) :=
  match registration with
  | extractor name candidate => registry.registerExtractor name candidate
  | format name tokens => registry.registerFormat name tokens

namespace Registry

variable {σ : Type}

/-- The registry after one registration; it stays as it is if the registration is refused. -/
def next (registry : Registry σ) (registration : Registration σ) : Registry σ :=
  match registration.answer registry with
  | .ok grown => grown
  | .error _ => registry

/-- The registry after a history. -/
def after (registry : Registry σ) : List (Registration σ) → Registry σ
  | [] => registry
  | registration :: rest => after (registry.next registration) rest

theorem after_append (registry : Registry σ) (front back : List (Registration σ)) :
    registry.after (front ++ back) = (registry.after front).after back := by
  induction front generalizing registry with
  | nil => rfl
  | cons registration rest ih => exact ih (registry.next registration)

/-- An accepted extractor goes to the end of the extractors, under a key that was free. -/
theorem registerExtractor_eq_ok {registry grown : Registry σ} {name : Value}
    {candidate : Option (Extractor σ)}
    (accepted : registry.registerExtractor name candidate = .ok grown) :
    ∃ label extractor, nameOf? name = some label ∧ candidate = some extractor ∧
      Text.lowercase label ∉ registry.extractors.names ∧
      grown = { registry with
        extractors := registry.extractors ++ [(Text.lowercase label, extractor)] } := by
  unfold registerExtractor at accepted
  split at accepted
  · cases accepted
  · cases accepted
  · next label extractor named =>
      dsimp only at accepted
      split at accepted
      · cases accepted
      · next free =>
          rw [Bool.not_eq_true, Catalog.has_eq_false_iff] at free
          rw [Catalog.put_of_not_mem _ _ _ free] at accepted
          exact ⟨label, extractor, named, rfl, free, (Except.ok.inj accepted).symm⟩

/-- An accepted format goes to the end of the formats, under a name that was free, and all its keys
are registered. -/
theorem registerFormat_eq_ok {registry grown : Registry σ} {name tokens : Value}
    (accepted : registry.registerFormat name tokens = .ok grown) :
    ∃ label texts format, nameOf? name = some label ∧ tokenTexts? tokens = some texts ∧
      label ∉ registry.formats.names ∧ Format.ofTexts texts = .ok format ∧
      registry.missingKeys format = [] ∧
      grown = { registry with formats := registry.formats ++ [(label, format)] } := by
  unfold registerFormat at accepted
  split at accepted
  · cases accepted
  · cases accepted
  · next label texts named listed =>
      split at accepted
      · cases accepted
      · next free =>
          rw [Bool.not_eq_true, Catalog.has_eq_false_iff] at free
          split at accepted
          · cases accepted
          · next format read =>
              split at accepted
              · next complete =>
                  rw [Catalog.put_of_not_mem _ _ _ free] at accepted
                  exact ⟨label, texts, format, named, listed, free, read, complete,
                    (Except.ok.inj accepted).symm⟩
              · cases accepted

/-- The later registry has the entries of the earlier one first, in their order. -/
structure Extends (earlier later : Registry σ) : Prop where
  /-- No extractor is lost. -/
  extractors : earlier.extractors <+: later.extractors
  /-- No format is lost. -/
  formats : earlier.formats <+: later.formats

namespace Extends

theorem refl (registry : Registry σ) : Extends registry registry :=
  ⟨List.prefix_refl _, List.prefix_refl _⟩

theorem trans {first second third : Registry σ} (left : Extends first second)
    (right : Extends second third) : Extends first third :=
  ⟨left.extractors.trans right.extractors, left.formats.trans right.formats⟩

theorem lookup? {earlier later : Registry σ} (growth : Extends earlier later) {key : String}
    {extractor : Extractor σ} (found : earlier.lookup? key = some extractor) :
    later.lookup? key = some extractor := by
  obtain ⟨added, grown⟩ := growth.extractors
  rw [Registry.lookup?, ← grown]
  exact Catalog.find?_append found added

theorem find?_formats {earlier later : Registry σ} (growth : Extends earlier later) {name : String}
    {format : Format} (found : earlier.formats.find? name = some format) :
    later.formats.find? name = some format := by
  obtain ⟨added, grown⟩ := growth.formats
  rw [← grown]
  exact Catalog.find?_append found added

end Extends

theorem extends_next (registry : Registry σ) (registration : Registration σ) :
    Extends registry (registry.next registration) := by
  rw [next]
  split
  · next grown accepted =>
      cases registration with
      | extractor name candidate =>
          obtain ⟨label, extractor, -, -, -, rfl⟩ := registerExtractor_eq_ok accepted
          exact ⟨List.prefix_append _ _, List.prefix_refl _⟩
      | format name tokens =>
          obtain ⟨label, texts, format, -, -, -, -, -, rfl⟩ := registerFormat_eq_ok accepted
          exact ⟨List.prefix_refl _, List.prefix_append _ _⟩
  · exact Extends.refl registry

/-- Nothing that was registered is ever lost, moved or replaced. -/
theorem extends_after (registry : Registry σ) (history : List (Registration σ)) :
    Extends registry (registry.after history) := by
  induction history generalizing registry with
  | nil => exact Extends.refl registry
  | cons registration rest ih =>
      exact (extends_next registry registration).trans (ih (registry.next registration))

/-- Registering the formats of a plan is a history of registrations that are all accepted. -/
theorem registerAll_eq_after {registry grown : Registry σ} {plan : Plan}
    (accepted : registry.registerAll plan = .ok grown) :
    grown = registry.after (plan.map fun entry => .format entry.1 entry.2) := by
  induction plan generalizing registry with
  | nil => exact (Except.ok.inj accepted).symm
  | cons entry rest ih =>
      obtain ⟨name, tokens⟩ := entry
      rw [registerAll] at accepted
      split at accepted
      · cases accepted
      · next middle answered =>
          have stepped : registry.next (.format name tokens) = middle := by
            simp [next, Registration.answer, answered]
          rw [List.map_cons, after, stepped]
          exact ih accepted

/-- The built-in extractors keep their keys. -/
theorem lookup?_after_create {users : UserReader} {plan : Plan} {fresh : Registry σ}
    (created : create users plan = .ok fresh) (history : List (Registration σ)) {key : String}
    {extractor : Extractor σ} (found : (Extractor.builtins users).find? key = some extractor) :
    (fresh.after history).lookup? key = some extractor := by
  rw [registerAll_eq_after created, ← after_append]
  exact (extends_after _ _).lookup? found

end Registry
end RequestLog
