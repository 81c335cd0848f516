import RequestLog.Proofs.Registry.Containment
import RequestLog.Proofs.Registry.Permanence
import RequestLog.Proofs.Token.Rendering

/-!
# Formats of built-in extractors

A registry keeps the built-in extractors under their keys from its creation on, so a format whose
keys are among them is compiled by the built-in extractors, whatever else is registered, and a key
alone is evaluated to what its extractor yields (`evaluate_plain`).  Of the built-in extractors only
`date` looks at the present instant.  The others draw their values out of the exchange alone, so a
format without `date` gives the same record of an exchange at any time and in any state.
-/

namespace RequestLog

namespace Extractor

variable {σ : Type} {users : UserReader}

/-- The keys of the built-in extractors. -/
def builtinKeys : List String :=
  ["url", "method", "response-time", "date", "status", "referrer", "remote-addr", "remote-user",
    "http-version", "user-agent", "req", "res"]

/-- The built-in extractors are registered under keys as tokens have them. -/
theorem isKey_of_builtin {key : String} {extractor : Extractor σ}
    (builtin : (builtins users).find? key = some extractor) : Token.IsKey key := by
  have keys : ∀ key ∈ builtinKeys, key ≠ "" ∧ key.toList.all Token.isNameChar = true ∧
      Text.lowercase key = key := by
    decide +kernel
  have known := List.mem_map_of_mem (f := Prod.fst) (Catalog.mem_of_find? builtin)
  obtain ⟨some_text, plain, lowered⟩ := keys key known
  exact ⟨some_text, List.all_eq_true.mp plain, lowered⟩

/-- What the extractor yields depends on the exchange alone. -/
def IsTimeless (extractor : Extractor σ) : Prop :=
  ∀ request response now later args state other,
    (extractor.run ⟨request, response, now⟩ args state).1 =
      (extractor.run ⟨request, response, later⟩ args other).1

theorem isTimeless_of_mem_builtins {entry : String × Extractor σ} (present : entry ∈ builtins users)
    (undated : entry.1 ≠ "date") : entry.2.IsTimeless := by
  simp only [builtins, List.mem_cons, List.not_mem_nil, or_false] at present
  rcases present with rfl | rfl | rfl | rfl | rfl | rfl | rfl | rfl | rfl | rfl | rfl | rfl
  case inr.inr.inr.inl => exact absurd rfl undated
  all_goals exact fun _ _ _ _ _ _ _ => rfl

end Extractor

namespace Format

/-- The format is made of built-in extractors. -/
def IsBuiltin (format : Format) : Prop :=
  ∀ token ∈ format.tokens, token.key ∈ Extractor.builtinKeys

/-- The format does not ask for the date. -/
def IsUndated (format : Format) : Prop :=
  ∀ token ∈ format.tokens, token.key ≠ "date"

instance (format : Format) : Decidable format.IsBuiltin :=
  inferInstanceAs (Decidable (∀ token ∈ format.tokens, token.key ∈ Extractor.builtinKeys))

instance (format : Format) : Decidable format.IsUndated :=
  inferInstanceAs (Decidable (∀ token ∈ format.tokens, token.key ≠ "date"))

end Format

namespace Registry

variable {σ : Type} {users : UserReader} {plan : Plan} {fresh : Registry σ}

/-- Under a built-in key a registry has the built-in extractor. -/
theorem exists_builtin (created : create users plan = .ok fresh) (history : List (Registration σ))
    {key : String} (known : key ∈ Extractor.builtinKeys) :
    ∃ extractor, (key, extractor) ∈ Extractor.builtins users ∧
      (fresh.after history).lookup? key = some extractor := by
  let builtins : Catalog (Extractor σ) := Extractor.builtins users
  have named : key ∈ builtins.names := known
  cases found : builtins.find? key with
  | none => exact absurd named ((Catalog.find?_eq_none_iff _ key).mp found)
  | some extractor =>
      exact ⟨extractor, Catalog.mem_of_find? found, lookup?_after_create created history found⟩

section Plain

variable {key name function : String} {value : Exchange.View → Outcome Value}
variable (created : create users plan = .ok fresh) (history : List (Registration σ))
variable (builtin : (Extractor.builtins users).find? key =
  some (.plain name function value (σ := σ)))

include created builtin

/-- A token without arguments draws the value of a built-in extractor that takes none. -/
theorem draw_plain {token : Token} (keyed : token.key = key) (bare : token.args = [])
    (view : Exchange.View) (state : σ) :
    (fresh.after history).draw view token state = (value view, state) := by
  have found := lookup?_after_create created history builtin
  simp only [draw, keyed, found, bare]
  rfl

/-- The key alone is evaluated to the value of a built-in extractor that takes no arguments. -/
theorem evaluate_plain (view : Exchange.View) (state : σ) :
    (fresh.after history).evaluate (.str key) view state = (value view, state) := by
  have found := lookup?_after_create created history builtin
  simp only [evaluate, Token.ofValue_key (Extractor.isKey_of_builtin builtin), found]
  rfl

/-- The field of a token without arguments shows the value of a built-in extractor that takes
none. -/
theorem find?_compile_plain {format : Format} {name : String}
    (stored : (name, format) ∈ (fresh.after history).formats) {token : Token}
    (present : token ∈ format.tokens) (keyed : token.key = key) (bare : token.args = [])
    {view : Exchange.View} {state : σ} {record : Record}
    (compiled : ((fresh.after history).compile name view state).outcome = .ok record) :
    record.find? token.raw = some (Extractor.field (value view)) := by
  have sound : (fresh.after history).Sound := (Sound.create created).after history
  rw [sound.compile_eq_compileFormat stored] at compiled
  exact find?_compileTokens compiled (sound.keyed _ stored).nodup_raws present fun state =>
    congrArg Prod.fst (draw_plain created history builtin keyed bare view state)

end Plain

/-- Without the date, the record of an exchange depends neither on the time nor on the state. -/
theorem outcome_compile_of_isUndated (created : create users plan = .ok fresh)
    (history : List (Registration σ)) {name : String} {format : Format}
    (kept : (name, format) ∈ (fresh.after history).formats) (builtin : format.IsBuiltin)
    (undated : format.IsUndated) (request : Request) (response : Option Response)
    (now later : Instant) (state other : σ) :
    ((fresh.after history).compile name ⟨request, response, now⟩ state).outcome =
      ((fresh.after history).compile name ⟨request, response, later⟩ other).outcome := by
  have sound : (fresh.after history).Sound := (Sound.create created).after history
  have by_name := sound.compile_eq_compileFormat kept
  rw [by_name, by_name]
  refine outcome_compileTokens_congr (fun token within here there => ?_) [] state other
  obtain ⟨extractor, present, found⟩ := exists_builtin created history (builtin token within)
  have timeless : extractor.IsTimeless :=
    Extractor.isTimeless_of_mem_builtins present (undated token within)
  simp only [draw, found]
  exact timeless request response now later token.args here there

/-- A format of built-in extractors gives a record, if the user is found with ordinary failures
only. -/
theorem exists_record_of_isBuiltin (created : create users plan = .ok fresh)
    (history : List (Registration σ)) (tame : ∀ request, (users request).IsTame) {name : String}
    {format : Format} (kept : (name, format) ∈ (fresh.after history).formats)
    (builtin : format.IsBuiltin) (view : Exchange.View) (state : σ) :
    ∃ record, ((fresh.after history).compile name view state).outcome = .ok record := by
  have sound : (fresh.after history).Sound := (Sound.create created).after history
  rw [sound.compile_eq_compileFormat kept]
  refine exists_record_of_draws (fun token within before => ?_) [] state
  obtain ⟨extractor, present, found⟩ := exists_builtin created history (builtin token within)
  simp only [draw, found]
  exact Extractor.isTame_of_mem_builtins tame present view token.args before

end Registry
end RequestLog
