import RequestLog.Proofs.Registry.Fields

/-!
# What is registered stays

A refused registration leaves the registry as it is, and an accepted one adds one entry at the end
of one catalog (`gains_of_accepted`).  Compiling looks at a registry only through the extractors of
the tokens (`compileTokens_congr`), so a stored format is compiled the same ever after.
-/

namespace RequestLog

/-- What the extractor yields does not depend on the state. -/
def Extractor.IsStateless {σ : Type} (extractor : Extractor σ) : Prop :=
  ∀ view args state other, (extractor.run view args state).1 = (extractor.run view args other).1

namespace Registry

variable {σ : Type}

/-- What a registry gains by an accepted registration: one entry at the end of one catalog, under a
name that was free there. -/
inductive Gains (registry : Registry σ) : Registration σ → Registry σ → Prop where
  /-- An extractor comes last among the extractors, and no format changes. -/
  | extractor {name : Value} {label : String} {extractor : Extractor σ}
      (named : nameOf? name = some label)
      (free : Text.lowercase label ∉ registry.extractors.names) :
      Gains registry (.extractor name (some extractor))
        ⟨registry.extractors ++ [(Text.lowercase label, extractor)], registry.formats⟩
  /-- A format comes last among the formats, and no extractor changes. -/
  | format {name tokens : Value} {label : String} {texts : List String} {format : Format}
      (named : nameOf? name = some label) (listed : tokenTexts? tokens = some texts)
      (written : Format.ofTexts texts = .ok format) (free : label ∉ registry.formats.names) :
      Gains registry (.format name tokens)
        ⟨registry.extractors, registry.formats ++ [(label, format)]⟩

theorem gains_of_accepted {registry grown : Registry σ} {registration : Registration σ}
    (accepted : registration.answer registry = .ok grown) : registry.Gains registration grown := by
  cases registration with
  | extractor name candidate =>
      obtain ⟨label, extractor, named, rfl, free, rfl⟩ := registerExtractor_eq_ok accepted
      exact .extractor named free
  | format name tokens =>
      obtain ⟨label, texts, format, named, listed, free, written, -, rfl⟩ :=
        registerFormat_eq_ok accepted
      exact .format named listed written free

theorem next_of_accepted {registry grown : Registry σ} {registration : Registration σ}
    (accepted : registration.answer registry = .ok grown) : registry.next registration = grown := by
  rw [next, accepted]

theorem next_of_refused {registry : Registry σ} {registration : Registration σ} {refusal : Refusal}
    (refused : registration.answer registry = .error refusal) :
    registry.next registration = registry := by
  rw [next, refused]

/-- Registries with the same extractors for the keys of tokens compile the tokens the same. -/
theorem compileTokens_congr {earlier later : Registry σ} {tokens : List Token}
    (same : ∀ token ∈ tokens, later.lookup? token.key = earlier.lookup? token.key)
    (view : Exchange.View) (record : Record) (state : σ) :
    later.compileTokens view tokens record state =
      earlier.compileTokens view tokens record state := by
  induction tokens generalizing record state with
  | nil => rfl
  | cons token rest ih =>
      have goes := ih fun other within => same other (List.mem_cons_of_mem _ within)
      have same_draw : later.draw view token state = earlier.draw view token state := by
        rw [draw, draw, same token List.mem_cons_self]
      rw [compileTokens_cons, compileTokens_cons, same_draw]
      simp only [goes]

variable {registry : Registry σ}

/-- Where each token yields the same value in any two states, the records are the same as well. -/
theorem outcome_compileTokens_congr {view other : Exchange.View} {tokens : List Token}
    (same : ∀ token ∈ tokens, ∀ state state',
      (registry.draw view token state).1 = (registry.draw other token state').1)
    (record : Record) (state state' : σ) :
    (registry.compileTokens view tokens record state).outcome =
      (registry.compileTokens other tokens record state').outcome := by
  induction tokens generalizing record state state' with
  | nil => rfl
  | cons token rest ih =>
      have goes := ih fun later within => same later (List.mem_cons_of_mem _ within)
      have same_draw := same token List.mem_cons_self state state'
      rw [compileTokens_cons, compileTokens_cons]
      cases drawn : registry.draw view token state with
      | mk outcome left_behind =>
          cases drawn' : registry.draw other token state' with
          | mk outcome' left_behind' =>
              obtain rfl : outcome = outcome' := by rwa [drawn, drawn'] at same_draw
              cases outcome with
              | ok value => exact goes _ _ _
              | error failure =>
                  cases ordinary : failure.isOrdinary with
                  | true => simpa [ordinary] using goes _ _ _
                  | false => simp [ordinary]

/-- If no extractor depends on the state, neither does the record. -/
theorem outcome_compileTokens_of_stateless {tokens : List Token}
    (stateless : ∀ token ∈ tokens, ∀ extractor, registry.lookup? token.key = some extractor →
      extractor.IsStateless)
    (view : Exchange.View) (record : Record) (state other : σ) :
    (registry.compileTokens view tokens record state).outcome =
      (registry.compileTokens view tokens record other).outcome := by
  refine outcome_compileTokens_congr (fun token within state state' => ?_) record state other
  cases found : registry.lookup? token.key with
  | none => simp only [draw, found]
  | some extractor =>
      simp only [draw, found]
      exact stateless token within extractor found view token.args state state'

/-- A stored format is compiled by every later registry as by the present one. -/
theorem Sound.compileFormat_after (sound : registry.Sound) {stored : String × Format}
    (kept : stored ∈ registry.formats) (later : List (Registration σ)) (view : Exchange.View)
    (state : σ) :
    (registry.after later).compileFormat stored.2 view state =
      registry.compileFormat stored.2 view state := by
  refine compileTokens_congr (fun token within => ?_) view [] state
  obtain ⟨extractor, found⟩ := sound.lookup?_isSome kept within
  rw [found]
  exact (extends_after registry later).lookup? found

theorem mem_formats_after {stored : String × Format} (kept : stored ∈ registry.formats)
    (later : List (Registration σ)) : stored ∈ (registry.after later).formats :=
  (extends_after registry later).formats.subset kept

/-- The name of a stored format is compiled the same ever after. -/
theorem Sound.compile_after (sound : registry.Sound) {stored : String × Format}
    (kept : stored ∈ registry.formats) (later : List (Registration σ)) (view : Exchange.View)
    (state : σ) :
    (registry.after later).compile stored.1 view state = registry.compile stored.1 view state := by
  rw [sound.compile_eq_compileFormat kept,
    (sound.after later).compile_eq_compileFormat (mem_formats_after kept later),
    sound.compileFormat_after kept]

/-- Registries only grow at their ends.  A refused registration changes nothing, and an accepted one
adds one entry at the end of one catalog.  Whatever is registered later, a stored format is compiled
the same, by name and by value; if its extractors are stateless, the record does not depend on the
state either. -/
theorem registry_append_only {users : UserReader} {plan : Plan} {fresh : Registry σ}
    (created : create users plan = .ok fresh) (history : List (Registration σ)) :
    let registry := fresh.after history
    (∀ registration,
      (∀ refusal, registration.answer registry = .error refusal →
        registry.next registration = registry) ∧
      ∀ grown, registration.answer registry = .ok grown →
        registry.next registration = grown ∧ registry.Gains registration grown ∧
          Extends registry grown) ∧
    ∀ stored ∈ registry.formats, ∀ (later : List (Registration σ)) (view : Exchange.View),
      (∀ state,
        (registry.after later).compile stored.1 view state = registry.compile stored.1 view state ∧
        (registry.after later).compileFormat stored.2 view state =
          registry.compile stored.1 view state) ∧
      ((∀ token ∈ stored.2.tokens, ∀ extractor, registry.lookup? token.key = some extractor →
          extractor.IsStateless) →
        ∀ state other,
          ((registry.after later).compile stored.1 view other).outcome =
            (registry.compile stored.1 view state).outcome) := by
  intro registry
  have sound : registry.Sound := (Sound.create created).after history
  refine ⟨fun registration => ⟨fun refusal refused => next_of_refused refused,
    fun grown accepted => ?_⟩, fun stored kept later view => ?_⟩
  · have stepped := next_of_accepted accepted
    exact ⟨stepped, gains_of_accepted accepted, stepped ▸ extends_next registry registration⟩
  · have by_name := sound.compile_eq_compileFormat kept view
    refine ⟨fun state => ⟨sound.compile_after kept later view state, ?_⟩,
      fun stateless state other => ?_⟩
    · rw [by_name, sound.compileFormat_after kept]
    · rw [sound.compile_after kept, by_name, by_name]
      exact outcome_compileTokens_of_stateless stateless view [] other state

/-- A malformed token late in a list is refused, an extractor and a format under taken names are
refused, and the format that was there is compiled as before. -/
theorem registry_append_only_of_refusals :
    let count : Extractor Nat := .stateless "count" fun _ args => .ok (.int args.length)
    let fresh : Registry Nat := ⟨Extractor.builtins Credentials.userName, []⟩
    let registry := fresh.after [.extractor (.str "Count") (some count),
      .format (.str "own") (.list [.str "COUNT[a,b]"])]
    let broken : Registration Nat :=
      .format (.str "other") (.list [.str "count", .str "not a token"])
    let view : Exchange.View :=
      ⟨⟨.empty, .null, .null, .null, .null, .null, .null, .null, none⟩, none, ⟨0⟩⟩
    broken.answer registry = .error (.malformedToken "not a token") ∧
      registry.next broken = registry ∧
      ((registry.after [broken, .extractor (.str "COUNT") none,
        .extractor (.str "count") (some count),
        .format (.str "own") (.list [.str "url"])]).compile "own" view 5).outcome =
          .ok [("COUNT[a,b]", .int 2)] := by
  intro count fresh registry broken view
  have created : create Credentials.userName [] = .ok fresh := rfl
  let format : Format := [("count", ⟨"COUNT[a,b]", "count", ["a", "b"]⟩)]
  have grown : registry = ⟨fresh.extractors ++ [("count", count)], [("own", format)]⟩ := rfl
  obtain ⟨atomic, permanent⟩ := registry_append_only created
    [.extractor (.str "Count") (some count), .format (.str "own") (.list [.str "COUNT[a,b]"])]
  have refused : broken.answer registry = .error (.malformedToken "not a token") := by
    rw [grown]
    rfl
  have kept : ("own", format) ∈ registry.formats := by
    rw [grown]
    exact List.mem_cons_self
  refine ⟨refused, (atomic broken).1 _ refused, ?_⟩
  have stateless : ∀ token ∈ format.tokens, ∀ extractor,
      registry.lookup? token.key = some extractor → extractor.IsStateless := by
    rw [grown]
    intro token within extractor found
    obtain rfl := List.mem_singleton.mp within
    obtain rfl := Option.some.inj found
    exact fun _ _ _ _ => rfl
  have same := (permanent _ kept [broken, .extractor (.str "COUNT") none,
    .extractor (.str "count") (some count), .format (.str "own") (.list [.str "url"])] view).2
    stateless 0 5
  rw [same, show fresh.after _ = _ from grown]
  rfl

end Registry
end RequestLog
