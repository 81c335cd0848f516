import RequestLog.Proofs.Registry.Evaluation
import RequestLog.Proofs.Registry.Permanence
import RequestLog.Proofs.Registry.Texts

/-!
# One field for each key

A record that is compiled from texts has one field for each key that the texts name.  The tokens of
a format stand under different keys, and a token is what its text is read as, so no two tokens have
one text and no field of the record takes the place of another.
-/

namespace RequestLog
namespace Format

theorem lastText?_eq_some_iff {texts : List String} {key text : String} :
    lastText? texts key = some text ↔ keyOf? text = some key ∧
      ∃ front back, texts = front ++ text :: back ∧ ∀ later ∈ back, keyOf? later ≠ some key := by
  rw [lastText?, List.find?_eq_some_iff_append, beq_iff_eq]
  refine and_congr_right fun _ => ?_
  constructor
  · rintro ⟨back, front, parts, after⟩
    refine ⟨front.reverse, back.reverse, ?_, fun later within => ?_⟩
    · rw [← List.reverse_reverse texts, parts]
      simp
    · simpa using after later (List.mem_reverse.mp within)
  · rintro ⟨front, back, rfl, after⟩
    refine ⟨back.reverse, front.reverse, by simp, fun later within => ?_⟩
    simpa using after later (List.mem_reverse.mp within)

theorem exists_lastText?_eq_some {texts : List String} {key : String} (named : key ∈ keysOf texts) :
    ∃ text, lastText? texts key = some text := by
  rw [keysOf, List.mem_eraseDups, List.mem_filterMap] at named
  obtain ⟨text, present, named⟩ := named
  rw [← Option.isSome_iff_exists, lastText?, List.find?_isSome]
  exact ⟨text, List.mem_reverse.mpr present, by simpa using named⟩

/-- The fields are one for each key that the texts name, each the last text that names its key. -/
structure OneForEachKey (texts fields : List String) : Prop where
  /-- The fields have the keys of the texts, each key once, in the order in which they come
  first. -/
  keys : fields.map keyOf? = (keysOf texts).map some
  /-- A field is one of the texts, and none of the texts behind it has its key. -/
  last : ∀ field ∈ fields, ∃ front back, texts = front ++ field :: back ∧
    ∀ later ∈ back, keyOf? later ≠ keyOf? field

theorem oneForEachKey_fieldTexts (texts : List String) :
    OneForEachKey texts (fieldTexts texts) := by
  constructor
  · rw [fieldTexts, List.map_filterMap, ← List.filterMap_eq_map]
    refine List.filterMap_congr fun key named => ?_
    obtain ⟨text, last⟩ := exists_lastText?_eq_some named
    rw [last, Option.map_some, (lastText?_eq_some_iff.mp last).1, Function.comp_apply]
  · intro field present
    obtain ⟨key, -, last⟩ := List.mem_filterMap.mp present
    obtain ⟨named, front, back, parts, after⟩ := lastText?_eq_some_iff.mp last
    exact ⟨front, back, parts, named ▸ after⟩

end Format

namespace Registry

variable {σ : Type}

/-- Texts that are accepted under a name are stored there as the format that they write. -/
theorem registerFormat_listed_eq_ok {registry grown : Registry σ} {label : String} {tokens : Value}
    {texts : List String} (listed : tokens.IsSequenceOf texts)
    (accepted : registry.registerFormat (.str label) tokens = .ok grown) :
    Format.ofTexts texts = .ok (Format.written texts) ∧
      (label, Format.written texts) ∈ grown.formats := by
  obtain ⟨name, given, format, named, read, -, written, -, rfl⟩ := registerFormat_eq_ok accepted
  obtain ⟨⟨⟩, -⟩ := nameOf?_eq_some_iff.mp named
  obtain ⟨sequence, -⟩ := tokenTexts?_eq_some_iff.mp read
  rw [← Value.texts?_eq_some_iff] at sequence listed
  obtain rfl : given = texts := Option.some.inj (sequence.symm.trans listed)
  obtain rfl := Format.eq_written_of_ofTexts written
  exact ⟨written, List.mem_append_right _ (List.mem_singleton.mpr rfl)⟩

/-- Texts that are accepted under a name are compiled to records with one field for each key that
they name, in the order in which the keys come first, and the name of a field is the last text with
its key.  No two tokens of the format have one text, and the record has as many fields as there are
tokens.  It is made whenever no extractor that is run fails in a way that is not ordinary, whatever
has been registered since. -/
theorem one_field_for_each_key {users : UserReader} {plan : Plan} {fresh : Registry σ}
    (created : create users plan = .ok fresh) (history : List (Registration σ)) {label : String}
    {tokens : Value} {texts : List String} (listed : tokens.IsSequenceOf texts) {grown : Registry σ}
    (accepted : (fresh.after history).registerFormat (.str label) tokens = .ok grown) :
    let format := Format.written texts
    let raws := format.tokens.map Token.raw
    grown.resolve label = .ok format ∧ raws.Nodup ∧
    ∀ (later : List (Registration σ)) (view : Exchange.View) (state : σ),
      (∀ evaluation ∈ (grown.after later).evaluateEach view raws state,
        Outcome.IsTame evaluation.outcome) →
      ∃ record, ((grown.after later).compile label view state).outcome = .ok record ∧
        ((grown.after later).compileFormat format view state).outcome = .ok record ∧
        record.names = raws ∧ Format.OneForEachKey texts record.names ∧
        record.length = format.length := by
  intro format raws
  obtain ⟨written, kept⟩ := registerFormat_listed_eq_ok listed accepted
  have sound : grown.Sound := ((Sound.create created).after history).registerFormat accepted
  refine ⟨?_, (sound.keyed _ kept).nodup_raws, fun later view state tame => ?_⟩
  · rw [resolve, Catalog.find?_of_mem sound.distinct kept]
  · have sound_now : (grown.after later).Sound := sound.after later
    have kept_now : (label, format) ∈ (grown.after later).formats := mem_formats_after kept later
    have mild : ∀ evaluation ∈ (grown.after later).evaluateEach view raws state,
        evaluation.grave? = none :=
      fun evaluation within => Evaluation.grave?_of_isTame (tame evaluation within)
    obtain ⟨-, made⟩ := evaluateEach_of_mild mild
    have compiled : ((grown.after later).compile label view state).outcome =
        .ok (((grown.after later).evaluateEach view raws state).map Evaluation.field) := by
      rw [← made]
      exact congrArg Compilation.outcome (sound_now.compile_eq kept_now state)
    have names_eq := sound_now.names_of_compile kept_now compiled
    refine ⟨_, compiled, ?_, names_eq, ?_, ?_⟩
    · rw [← sound_now.compile_eq_compileFormat kept_now, compiled]
    · rw [names_eq, Format.raws_of_ofTexts written]
      exact Format.oneForEachKey_fieldTexts texts
    · have counted := congrArg List.length names_eq
      simpa [Catalog.names, Format.tokens] using counted

/-- Two keys come twice, in two spellings, and one extractor fails. -/
theorem one_field_for_each_key_of_repeated_keys :
    let fresh : Registry Unit := ⟨Extractor.builtins Credentials.userName, []⟩
    let texts := ["REQ[a]", "url", "req[host]", "method[x]", "Url"]
    let tokens : Value := .tuple (texts.map .str)
    let grown : Registry Unit := ⟨fresh.extractors, [("own", Format.written texts)]⟩
    let request : Request :=
      ⟨.empty, .str "GET", .str "/", .str "1.1", .null, .null, .null, .null, none⟩
    let view : Exchange.View := (World.start ⟨0⟩ () []).view request none
    tokens.IsSequenceOf texts ∧ fresh.registerFormat (.str "own") tokens = .ok grown ∧
      ∃ record, (grown.compile "own" view ()).outcome = .ok record ∧
        record.names = ["req[host]", "Url", "method[x]"] ∧
        Format.OneForEachKey texts record.names := by
  intro fresh texts tokens grown request view
  have created : create Credentials.userName [] = .ok fresh := rfl
  have listed : tokens.IsSequenceOf texts := Or.inr rfl
  have accepted : fresh.registerFormat (.str "own") tokens = .ok grown := rfl
  have raws : (Format.written texts).tokens.map Token.raw = ["req[host]", "Url", "method[x]"] := by
    decide +kernel
  obtain ⟨-, -, compiles⟩ := one_field_for_each_key created [] listed accepted
  rw [raws] at compiles
  have tame : ∀ evaluation ∈
      (grown.after []).evaluateEach view ["req[host]", "Url", "method[x]"] (),
      Outcome.IsTame evaluation.outcome := by
    have evaluated : (grown.after []).evaluateEach view ["req[host]", "Url", "method[x]"] () =
        [⟨"req[host]", (), .ok .null, ()⟩, ⟨"Url", (), .ok (.str "/"), ()⟩,
          ⟨"method[x]", (), .error (Fault.tooManyArguments "method" 1 2 3), ()⟩] := rfl
    rw [evaluated]
    intro evaluation within
    simp only [List.mem_cons, List.not_mem_nil, or_false] at within
    rcases within with rfl | rfl | rfl
    · exact Outcome.isTame_ok _
    · exact Outcome.isTame_ok _
    · exact Outcome.isTame_fault _
  obtain ⟨record, compiled, -, names_eq, one_each, -⟩ := compiles [] view () tame
  exact ⟨listed, accepted, record, compiled, names_eq, one_each⟩

end Registry
end RequestLog
