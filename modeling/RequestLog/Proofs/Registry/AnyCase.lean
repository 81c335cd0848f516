import RequestLog.Proofs.Registry.Answers
import RequestLog.Proofs.Registry.Permanence
import RequestLog.Proofs.Text.Lowered
import RequestLog.Proofs.Token.Grammar

/-!
# Names in any case

Registering an extractor and reading a token lower a name each for itself: the one takes a whole
text, the other the run of name characters that a text begins with.  They meet in the same key,
since lowering neither makes nor loses a bracket and so a name that is lowered to a registered one
holds none (`Token.key_of_isCallOf`).
-/

namespace RequestLog

/-! ## Texts that call an extractor -/

namespace Token

/-- The text is a name, perhaps with a body between brackets. -/
inductive IsCallOf (name : String) : String → Prop where
  /-- The name alone. -/
  | plain : IsCallOf name name
  /-- The name with a body. -/
  | bracketed (body : String) : IsCallOf name (name ++ "[" ++ body ++ "]")

/-- The name of a spelling goes up to the first bracket. -/
theorem Spelling.takeWhile_ne_bracket (spelling : Spelling) :
    spelling.text.toList.takeWhile (· ≠ '[') = spelling.name := by
  have no_bracket : ∀ c ∈ spelling.name, decide (c ≠ '[') = true := by
    intro c within
    rw [decide_eq_true_iff]
    rintro rfl
    exact absurd (spelling.isNameChar_of_mem _ within) (by decide)
  rw [text, String.toList_ofList, List.takeWhile_append_of_pos no_bracket, suffix]
  split <;> simp

/-- The name of a call goes up to the first bracket. -/
theorem IsCallOf.takeWhile_ne_bracket {name text : String} (called : IsCallOf name text)
    (no_bracket : '[' ∉ name.toList) : text.toList.takeWhile (· ≠ '[') = name.toList := by
  have all_before : ∀ c ∈ name.toList, decide (c ≠ '[') = true := by
    intro c within
    rw [decide_eq_true_iff]
    rintro rfl
    exact no_bracket within
  cases called with
  | plain => exact List.takeWhile_eq_self_iff.mpr all_before
  | bracketed body =>
      simp only [String.toList_append, List.append_assoc]
      rw [List.takeWhile_append_of_pos all_before]
      simp

/-- A call that is read has the lower case of its name for its key. -/
theorem key_of_isCallOf {name text : String} {token : Token} (called : IsCallOf name text)
    (no_bracket : '[' ∉ name.toList) (read : parse? text = some token) :
    token.key = Text.lowercase name := by
  obtain ⟨spelling, rfl, rfl⟩ := parse?_eq_some_iff.mp read
  have same_name : spelling.name = name.toList := by
    rw [← spelling.takeWhile_ne_bracket, called.takeWhile_ne_bracket no_bracket]
  rw [Spelling.token, same_name, String.ofList_toList]

/-- The text calls a key: its name is lowered to the key. -/
def Calls (text key : String) : Prop :=
  ∃ name, Text.lowercase name = key ∧ IsCallOf name text

/-- Calls of a key without brackets, if they are read, are read as tokens of the key. -/
theorem Calls.key_eq {text key : String} {token : Token} (called : Calls text key)
    (no_bracket : '[' ∉ key.toList) (read : parse? text = some token) : token.key = key := by
  obtain ⟨name, rfl, written⟩ := called
  exact key_of_isCallOf written
    (fun within => no_bracket ((Text.mem_lowercase_iff (by decide) (by decide) name).mpr within))
      read

end Token

namespace Registry

variable {σ : Type} {registry : Registry σ} {key : String} {extractor : Extractor σ}

/-! ## What a registered key answers to -/

/-- A name that is lowered to a registered key is refused. -/
theorem registerExtractor_of_found (found : registry.lookup? key = some extractor) {name : String}
    (named : name ≠ "") (lowered : Text.lowercase name = key) (candidate : Extractor σ) :
    registry.registerExtractor (.str name) (some candidate) =
      .error (.alreadyRegistered .extractor key) := by
  have taken : registry.extractors.has key = true := by
    rw [Catalog.has, show registry.extractors.find? key = _ from found, Option.isSome_some]
  simp only [registerExtractor, nameOf?_eq_some_iff.mpr ⟨rfl, named⟩, lowered, taken, ↓reduceIte]

/-- A name that is lowered to a free key is accepted. -/
theorem registerExtractor_of_free {name : String} (named : name ≠ "")
    (free : Text.lowercase name ∉ registry.extractors.names) (candidate : Extractor σ) :
    registry.registerExtractor (.str name) (some candidate) = .ok { registry with
      extractors := registry.extractors ++ [(Text.lowercase name, candidate)] } := by
  have not_taken : registry.extractors.has (Text.lowercase name) = false :=
    (Catalog.has_eq_false_iff _ _).mpr free
  simp only [registerExtractor, nameOf?_eq_some_iff.mpr ⟨rfl, named⟩, not_taken,
    Bool.false_eq_true, ↓reduceIte, Catalog.put_of_not_mem _ _ _ free]

theorem evaluate_of_found (found : registry.lookup? key = some extractor) {text : String}
    {token : Token} (read : Token.ofValue (.str text) = .ok token) (keyed : token.key = key)
    (view : Exchange.View) (state : σ) :
    registry.evaluate (.str text) view state = extractor.run view token.args state := by
  rw [evaluate, read]
  simp only [keyed, found]

/-- No key is missing from texts that all name a registered one. -/
theorem missingFrom_of_found (found : registry.lookup? key = some extractor) {texts : List String}
    (keyed : ∀ text ∈ texts, Format.keyOf? text = some key) : registry.missingFrom texts = [] := by
  refine List.filter_eq_nil_iff.mpr fun other named => ?_
  rw [Format.keysOf, List.mem_eraseDups, List.mem_filterMap] at named
  obtain ⟨text, present, named⟩ := named
  obtain rfl : key = other := Option.some.inj ((keyed text present).symm.trans named)
  rw [Catalog.has, show registry.extractors.find? key = _ from found]
  simp

/-- Texts that all name a registered key are accepted as a format under a free name. -/
theorem registerFormat_of_found (found : registry.lookup? key = some extractor) {label : String}
    (named : label ≠ "") (free : label ∉ registry.formats.names) {tokens : Value}
    {texts : List String} (listed : tokens.IsSequenceOf texts) (some_text : texts ≠ [])
    (keyed : ∀ text ∈ texts, Format.keyOf? text = some key) :
    registry.registerFormat (.str label) tokens =
      .ok { registry with formats := registry.formats ++ [(label, Format.written texts)] } := by
  have read : ∀ text ∈ texts, Token.parse? text ≠ none := by
    intro text present unread
    have no_key := keyed text present
    rw [Format.keyOf?, unread] at no_key
    cases no_key
  exact (FormatAnswer.stored named listed some_text free read
    (missingFrom_of_found found keyed)).registerFormat_eq

/-- An extractor that is registered under a free name answers to that name in any case, whatever is
registered later: every text that calls it and is a token is evaluated by it, with the arguments
that the text holds; lists of such texts are accepted as formats; and no other extractor is accepted
under any spelling of the name. -/
theorem extractor_answers_in_any_case (registry : Registry σ) {name : String} (named : name ≠ "")
    (plain : ∀ c ∈ name.toList, Token.isNameChar c = true)
    (free : Text.lowercase name ∉ registry.extractors.names) (extractor : Extractor σ) :
    let key := Text.lowercase name
    let grown := { registry with extractors := registry.extractors ++ [(key, extractor)] }
    registry.registerExtractor (.str name) (some extractor) = .ok grown ∧
    ∀ later : List (Registration σ),
      let present := grown.after later
      present.lookup? key = some extractor ∧
      (∀ text token, Token.Calls text key → Token.ofValue (.str text) = .ok token →
        ∀ view state,
          present.evaluate (.str text) view state = extractor.run view token.args state) ∧
      (∀ label tokens texts, label ≠ "" → label ∉ present.formats.names →
        tokens.IsSequenceOf texts → texts ≠ [] →
        (∀ text ∈ texts, Token.Calls text key ∧ ∃ token, Token.ofValue (.str text) = .ok token) →
        present.registerFormat (.str label) tokens =
          .ok { present with formats := present.formats ++ [(label, Format.written texts)] }) ∧
      ∀ spelling candidate, Text.lowercase spelling = key →
        let again : Registration σ := .extractor (.str spelling) (some candidate)
        again.answer present = .error (.alreadyRegistered .extractor key) ∧
          present.next again = present := by
  intro key grown
  have no_bracket : '[' ∉ key.toList := by
    rw [Text.mem_lowercase_iff (by decide) (by decide)]
    exact fun within => absurd (plain _ within) (by decide)
  have found_first : grown.lookup? key = some extractor := by
    have put_last : registry.extractors.put key extractor = grown.extractors :=
      Catalog.put_of_not_mem _ _ _ free
    rw [lookup?, ← put_last, Catalog.find?_put, if_pos rfl]
  refine ⟨registerExtractor_of_free named free extractor, fun later => ?_⟩
  intro present
  have found : present.lookup? key = some extractor :=
    (extends_after grown later).lookup? found_first
  refine ⟨found, fun text token called read view state => ?_,
    fun label tokens texts labelled unused listed some_text called => ?_,
    fun spelling candidate lowered => ?_⟩
  · have keyed : token.key = key := called.key_eq no_bracket (Token.ofValue_str_eq_ok_iff.mp read)
    exact evaluate_of_found found read keyed view state
  · refine registerFormat_of_found found labelled unused listed some_text fun text within => ?_
    obtain ⟨calls, token, read⟩ := called text within
    have parsed : Token.parse? text = some token := Token.ofValue_str_eq_ok_iff.mp read
    rw [Format.keyOf?, parsed, Option.map_some, calls.key_eq no_bracket parsed]
  · intro again
    have nonempty : spelling ≠ "" := by
      rintro rfl
      exact Text.lowercase_ne_empty named lowered.symm
    have refused : again.answer present = .error (.alreadyRegistered .extractor key) :=
      registerExtractor_of_found found nonempty lowered candidate
    exact ⟨refused, next_of_refused refused⟩

/-- A capital sigma is lowered in two ways, by its place in the word, and the Kelvin sign becomes a
letter of ASCII; the body of the call holds brackets. -/
theorem extractor_answers_in_any_case_of_greek :
    let fresh : Registry Nat := ⟨Extractor.builtins Credentials.userName, []⟩
    let tally : Extractor Nat :=
      ⟨"tally", fun _ args count => (.ok (.list (args.map .str)), count + 1)⟩
    let grown : Registry Nat := ⟨fresh.extractors ++ [("σας-k", tally)], []⟩
    let present := grown.after [.extractor (.str "sigma") (some tally)]
    let view : Exchange.View :=
      ⟨⟨.empty, .null, .null, .null, .null, .null, .null, .null, none⟩, none, ⟨0⟩⟩
    fresh.registerExtractor (.str "ΣΑΣ-\u212A") (some tally) = .ok grown ∧
      present.evaluate (.str "σΑΣ-K[ a ,[b]]") view 7 = (.ok (.list [.str "a", .str "[b]"]), 8) ∧
      present.registerFormat (.str "own") (.list [.str "σας-\u212A"]) =
        .ok { present with formats := [("own", Format.written ["σας-\u212A"])] } ∧
      present.registerExtractor (.str "Σας-K") (some tally) =
        .error (.alreadyRegistered .extractor "σας-k") := by
  intro fresh tally grown present view
  have lowered : Text.lowercase "ΣΑΣ-\u212A" = "σας-k" := by decide +kernel
  have plain : ∀ c ∈ "ΣΑΣ-\u212A".toList, Token.isNameChar c = true :=
    List.all_eq_true.mp (by decide +kernel)
  have free : Text.lowercase "ΣΑΣ-\u212A" ∉ fresh.extractors.names := by
    rw [lowered]
    decide +kernel
  have answers := extractor_answers_in_any_case fresh (by decide) plain free tally
  rw [lowered] at answers
  obtain ⟨accepted, answers⟩ := answers
  obtain ⟨-, evaluated, stored, refused⟩ := answers [.extractor (.str "sigma") (some tally)]
  refine ⟨accepted, ?_, ?_, (refused "Σας-K" tally (by decide +kernel)).1⟩
  · exact evaluated "σΑΣ-K[ a ,[b]]" ⟨"σΑΣ-K[ a ,[b]]", "σας-k", ["a", "[b]"]⟩
      ⟨"σΑΣ-K", by decide +kernel, .bracketed " a ,[b]"⟩ (by decide +kernel) view 7
  · refine stored "own" _ ["σας-\u212A"] (by decide) (by decide +kernel) (Or.inl rfl) (by decide)
      fun text within => ?_
    obtain rfl := List.mem_singleton.mp within
    exact ⟨⟨_, by decide +kernel, .plain⟩, ⟨"σας-\u212A", "σας-k", []⟩, by decide +kernel⟩

end Registry
end RequestLog
