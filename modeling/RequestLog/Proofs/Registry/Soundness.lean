import RequestLog.Compilation
import RequestLog.Proofs.Registry.History

/-!
# Stored formats

Every format that a registry stores can be read back from the texts of its tokens, and an extractor
is registered for each of its keys.  Both are settled when the format is registered and hold from
then on, since a registry only grows.  Compiling a stored format therefore never comes to a token
without an extractor.
-/

namespace RequestLog

theorem Token.raw_of_parse? {text : String} {token : Token}
    (read : Token.parse? text = some token) :
    token.raw = text := by
  simp only [parse?] at read
  split at read
  · cases read
  · obtain ⟨args, -, rfl⟩ := Option.map_eq_some_iff.mp read
    rfl

namespace Format

/-- Each token stands under its own key, once, and is what its text is read as. -/
structure Keyed (format : Format) : Prop where
  /-- No key occurs twice. -/
  distinct : format.names.Nodup
  /-- A token stands under its own key. -/
  key : ∀ entry ∈ format, entry.2.key = entry.1
  /-- The text of a token is read as the token. -/
  read : ∀ entry ∈ format, Token.parse? entry.2.raw = some entry.2

theorem keyed_nil : Keyed [] :=
  ⟨List.nodup_nil, by simp, by simp⟩

/-- Adding a token under its key keeps a format keyed. -/
theorem Keyed.put {format : Format} (keyed : format.Keyed) {text : String} {token : Token}
    (read : Token.parse? text = some token) : Keyed (Catalog.put format token.key token) := by
  have reread : Token.parse? token.raw = some token := by
    rw [Token.raw_of_parse? read, read]
  refine ⟨Catalog.nodup_names_put keyed.distinct _ _, ?_, ?_⟩
  · intro entry present
    rcases Catalog.mem_put present with rfl | old
    · rfl
    · exact keyed.key entry old
  · intro entry present
    rcases Catalog.mem_put present with rfl | old
    · exact reread
    · exact keyed.read entry old

theorem Keyed.addTexts {format written : Format} (keyed : format.Keyed) {texts : List String}
    (read : format.addTexts texts = .ok written) : written.Keyed := by
  induction texts generalizing format with
  | nil => exact Except.ok.inj read ▸ keyed
  | cons text rest ih =>
      rw [Format.addTexts] at read
      split at read
      · cases read
      · next token found => exact ih (keyed.put found) read

theorem addTexts_ne_nil {format written : Format} {texts : List String}
    (read : format.addTexts texts = .ok written) (some_entry : format ≠ [] ∨ texts ≠ []) :
    written ≠ [] := by
  induction texts generalizing format with
  | nil =>
      rcases some_entry with there | absent
      · exact Except.ok.inj read ▸ there
      · exact absurd rfl absent
  | cons text rest ih =>
      rw [Format.addTexts] at read
      split at read
      · cases read
      · exact ih read (Or.inl (Catalog.put_ne_nil _ _ _))

end Format

namespace Registry

variable {σ : Type}

/-- What a registry guarantees about the formats that it stores. -/
structure Sound (registry : Registry σ) : Prop where
  /-- No two formats have one name. -/
  distinct : registry.formats.names.Nodup
  /-- No format is empty. -/
  nonempty : ∀ stored ∈ registry.formats, stored.2 ≠ []
  /-- The tokens of a format stand under their keys and are what their texts are read as. -/
  keyed : ∀ stored ∈ registry.formats, stored.2.Keyed
  /-- Every key of a format is registered. -/
  registered : ∀ stored ∈ registry.formats, ∀ entry ∈ stored.2,
    registry.extractors.has entry.1 = true

theorem tokenTexts?_ne_nil {tokens : Value} {texts : List String}
    (listed : tokenTexts? tokens = some texts) : texts ≠ [] := by
  rintro rfl
  rw [tokenTexts?] at listed
  split at listed
  · cases listed
  · next nonempty => exact nonempty listed

/-- Without missing keys, every key of a format is registered. -/
theorem has_of_missingKeys_eq_nil {registry : Registry σ} {format : Format}
    (complete : registry.missingKeys format = []) {entry : String × Token}
    (present : entry ∈ format) :
    registry.extractors.has entry.1 = true := by
  have known := List.filter_eq_nil_iff.mp complete entry.1 (List.mem_map_of_mem present)
  simpa using known

namespace Sound

/-- A registry without formats is sound. -/
theorem of_formats_eq_nil {registry : Registry σ} (none_stored : registry.formats = []) :
    registry.Sound := by
  constructor <;> simp [none_stored, Catalog.names]

theorem registerExtractor {registry grown : Registry σ} (sound : registry.Sound) {name : Value}
    {candidate : Option (Extractor σ)}
    (accepted : registry.registerExtractor name candidate = .ok grown) : grown.Sound := by
  obtain ⟨label, extractor, -, -, -, rfl⟩ := registerExtractor_eq_ok accepted
  refine ⟨sound.distinct, sound.nonempty, sound.keyed, ?_⟩
  intro stored kept entry present
  have before := sound.registered stored kept entry present
  rw [Catalog.has_eq_true_iff] at before ⊢
  rw [Catalog.names_append]
  exact List.mem_append_left _ before

theorem registerFormat {registry grown : Registry σ} (sound : registry.Sound) {name tokens : Value}
    (accepted : registry.registerFormat name tokens = .ok grown) : grown.Sound := by
  obtain ⟨label, texts, format, -, listed, free, written, complete, rfl⟩ :=
    registerFormat_eq_ok accepted
  -- Each part holds of the old formats by soundness; what is left is the format at the end.
  refine ⟨?_, ?_, ?_, ?_⟩
  · rw [← Catalog.put_of_not_mem _ _ _ free]
    exact Catalog.nodup_names_put sound.distinct _ _
  · intro stored kept
    rcases List.mem_append.mp kept with old | new
    · exact sound.nonempty stored old
    · rw [List.mem_singleton.mp new]
      exact Format.addTexts_ne_nil written (Or.inr (tokenTexts?_ne_nil listed))
  · intro stored kept
    rcases List.mem_append.mp kept with old | new
    · exact sound.keyed stored old
    · rw [List.mem_singleton.mp new]
      exact Format.keyed_nil.addTexts written
  · intro stored kept entry present
    rcases List.mem_append.mp kept with old | new
    · exact sound.registered stored old entry present
    · rw [List.mem_singleton.mp new] at present
      exact has_of_missingKeys_eq_nil complete present

theorem next {registry : Registry σ} (sound : registry.Sound) (registration : Registration σ) :
    (registry.next registration).Sound := by
  rw [Registry.next]
  split
  · next grown accepted =>
      cases registration with
      | extractor name candidate => exact sound.registerExtractor accepted
      | format name tokens => exact sound.registerFormat accepted
  · exact sound

theorem after {registry : Registry σ} (sound : registry.Sound) (history : List (Registration σ)) :
    (registry.after history).Sound := by
  induction history generalizing registry with
  | nil => exact sound
  | cons registration rest ih => exact ih (sound.next registration)

theorem create {users : UserReader} {plan : Plan} {fresh : Registry σ}
    (created : Registry.create users plan = .ok fresh) : fresh.Sound := by
  rw [registerAll_eq_after created]
  exact (of_formats_eq_nil rfl).after _

/-- Every token of a stored format has its extractor. -/
theorem lookup?_isSome {registry : Registry σ} (sound : registry.Sound) {name : String}
    {format : Format} (stored : (name, format) ∈ registry.formats) {token : Token}
    (present : token ∈ format.tokens) :
    ∃ extractor, registry.lookup? token.key = some extractor := by
  obtain ⟨entry, listed, rfl⟩ := List.mem_map.mp present
  have known := sound.registered _ stored entry listed
  rw [← (sound.keyed _ stored).key entry listed] at known
  exact Option.isSome_iff_exists.mp known

end Sound

/-- After every history the stored formats are sound; and whatever is registered later, the name of
a stored format stands for the same tokens, each of which has an extractor. -/
theorem sound_after_create {users : UserReader} {plan : Plan} {fresh : Registry σ}
    (created : create users plan = .ok fresh) (history : List (Registration σ)) :
    (fresh.after history).Sound ∧
      ∀ stored ∈ (fresh.after history).formats, ∀ later : List (Registration σ),
        ((fresh.after history).after later).resolve stored.1 = .ok stored.2 ∧
        ∀ token ∈ stored.2.tokens, ∃ extractor,
          ((fresh.after history).after later).lookup? token.key = some extractor := by
  have sound : (fresh.after history).Sound := (Sound.create created).after history
  refine ⟨sound, ?_⟩
  rintro ⟨name, format⟩ stored later
  have growth := extends_after (fresh.after history) later
  constructor
  · have found := growth.find?_formats (Catalog.find?_of_mem sound.distinct stored)
    rw [resolve, found]
  · intro token present
    obtain ⟨extractor, found⟩ := sound.lookup?_isSome stored present
    exact ⟨extractor, growth.lookup? found⟩

/-- The built-in formats are accepted, and a refused and an accepted format come after them. -/
theorem sound_after_builtinPlan :
    ∃ fresh : Registry Unit, create Credentials.userName builtinPlan = .ok fresh ∧
      (fresh.after [.format (.str "tiny") (.list [.str "url"]),
        .format (.str "own")
          (.tuple [.str "REQ[host]", .str "url", .str "req[ accept ]"])]).Sound := by
  have accepted : (create (σ := Unit) Credentials.userName builtinPlan).isOk = true := by
    decide +kernel
  cases created : create (σ := Unit) Credentials.userName builtinPlan with
  | error refusal =>
      rw [created] at accepted
      cases accepted
  | ok fresh => exact ⟨fresh, rfl, (sound_after_create created _).1⟩

end Registry
end RequestLog
