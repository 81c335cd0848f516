import RequestLog.Proofs.Registry.Texts

/-!
# Answers to formats

The registration of a format can go wrong in five ways, and several of them at once.  `FormatAnswer`
says which one is answered: a bad name before bad tokens, both before a taken name, then the first
text that is no token, and last the keys without an extractor.  Every registration has exactly one
answer of this kind (`exists_formatAnswer`, `FormatAnswer.registerFormat_eq`).
-/

namespace RequestLog
namespace Registry

variable {σ : Type}

/-- The keys that texts name and that no extractor is registered under, each once, in the order in
which they come first. -/
def missingFrom (registry : Registry σ) (texts : List String) : List String :=
  (Format.keysOf texts).filter fun key => !registry.extractors.has key

/-- What is answered to the registration of a format under a name. -/
inductive FormatAnswer (registry : Registry σ) :
    Value → Value → Except Refusal (Registry σ) → Prop where
  /-- The name is no text, or it is empty. -/
  | badName {name tokens : Value} (unnamed : ∀ label, name = .str label → label = "") :
      FormatAnswer registry name tokens (.error (.badName .format))
  /-- The tokens are no sequence of texts, or there are none. -/
  | badTokens {label : String} {tokens : Value} (named : label ≠ "")
      (unlisted : ∀ texts, tokens.IsSequenceOf texts → texts = []) :
      FormatAnswer registry (.str label) tokens (.error .badTokens)
  /-- A format has the name. -/
  | taken {label : String} {tokens : Value} {texts : List String} (named : label ≠ "")
      (listed : tokens.IsSequenceOf texts) (some_text : texts ≠ [])
      (taken : label ∈ registry.formats.names) :
      FormatAnswer registry (.str label) tokens (.error (.alreadyRegistered .format label))
  /-- A text is no token, and all texts before it are tokens. -/
  | malformed {label : String} {tokens : Value} {front back : List String} {text : String}
      (named : label ≠ "") (listed : tokens.IsSequenceOf (front ++ text :: back))
      (free : label ∉ registry.formats.names)
      (read : ∀ earlier ∈ front, Token.parse? earlier ≠ none) (unread : Token.parse? text = none) :
      FormatAnswer registry (.str label) tokens (.error (.malformedToken text))
  /-- All texts are tokens, and some of their keys have no extractor. -/
  | missing {label : String} {tokens : Value} {texts : List String} (named : label ≠ "")
      (listed : tokens.IsSequenceOf texts) (free : label ∉ registry.formats.names)
      (read : ∀ text ∈ texts, Token.parse? text ≠ none)
      (some_missing : registry.missingFrom texts ≠ []) :
      FormatAnswer registry (.str label) tokens
        (.error (.missingExtractors (registry.missingFrom texts)))
  /-- All texts are tokens with extractors; the format that they write comes last. -/
  | stored {label : String} {tokens : Value} {texts : List String} (named : label ≠ "")
      (listed : tokens.IsSequenceOf texts) (some_text : texts ≠ [])
      (free : label ∉ registry.formats.names) (read : ∀ text ∈ texts, Token.parse? text ≠ none)
      (complete : registry.missingFrom texts = []) :
      FormatAnswer registry (.str label) tokens
        (.ok { registry with formats := registry.formats ++ [(label, Format.written texts)] })

theorem missingKeys_written (registry : Registry σ) {texts : List String}
    (read : ∀ text ∈ texts, Token.parse? text ≠ none) :
    registry.missingKeys (Format.written texts) = registry.missingFrom texts := by
  rw [missingKeys, Format.names_written read, missingFrom]

/-- A name that is a text, with tokens that are texts, is answered by what the texts write. -/
theorem registerFormat_of_listed (registry : Registry σ) {label : String} (named : label ≠ "")
    {tokens : Value} {texts : List String} (listed : tokens.IsSequenceOf texts)
    (some_text : texts ≠ []) :
    registry.registerFormat (.str label) tokens =
      if registry.formats.has label then .error (.alreadyRegistered .format label)
      else
        match Format.ofTexts texts with
        | .error refusal => .error refusal
        | .ok format =>
            match registry.missingKeys format with
            | [] => .ok { registry with formats := registry.formats.put label format }
            | missing => .error (.missingExtractors missing) := by
  rewrite [registerFormat, nameOf?_eq_some_iff.mpr ⟨rfl, named⟩,
    tokenTexts?_eq_some_iff.mpr ⟨listed, some_text⟩]
  rfl

theorem registerFormat_of_free (registry : Registry σ) {label : String} (named : label ≠ "")
    {tokens : Value} {texts : List String} (listed : tokens.IsSequenceOf texts)
    (some_text : texts ≠ []) (free : label ∉ registry.formats.names) :
    registry.registerFormat (.str label) tokens =
      match Format.ofTexts texts with
      | .error refusal => .error refusal
      | .ok format =>
          match registry.missingKeys format with
          | [] => .ok { registry with formats := registry.formats ++ [(label, format)] }
          | missing => .error (.missingExtractors missing) := by
  have not_taken : registry.formats.has label = false := (Catalog.has_eq_false_iff _ _).mpr free
  rw [registry.registerFormat_of_listed named listed some_text, not_taken]
  simp only [Bool.false_eq_true, ↓reduceIte, Catalog.put_of_not_mem _ _ _ free]

/-- What the clauses say is answered. -/
theorem FormatAnswer.registerFormat_eq {registry : Registry σ} {name tokens : Value}
    {answer : Except Refusal (Registry σ)} (answered : registry.FormatAnswer name tokens answer) :
    registry.registerFormat name tokens = answer := by
  cases answered with
  | badName unnamed =>
      have no_name : nameOf? name = none := by
        rw [Option.eq_none_iff_forall_ne_some]
        intro label named
        obtain ⟨rfl, nonempty⟩ := nameOf?_eq_some_iff.mp named
        exact nonempty (unnamed label rfl)
      rw [registerFormat, no_name]
  | badTokens named unlisted =>
      have no_texts : tokenTexts? tokens = none := by
        rw [Option.eq_none_iff_forall_ne_some]
        intro texts read
        obtain ⟨listed, some_text⟩ := tokenTexts?_eq_some_iff.mp read
        exact some_text (unlisted texts listed)
      rw [registerFormat, nameOf?_eq_some_iff.mpr ⟨rfl, named⟩, no_texts]
  | taken named listed some_text taken =>
      rw [registry.registerFormat_of_listed named listed some_text,
        if_pos ((Catalog.has_eq_true_iff _ _).mpr taken)]
  | malformed named listed free read unread =>
      rw [registry.registerFormat_of_free named listed (by simp) free,
        Format.ofTexts_of_unread read unread]
  | @missing label tokens texts named listed free read some_missing =>
      have some_text : texts ≠ [] := by
        rintro rfl
        exact some_missing rfl
      rw [registry.registerFormat_of_free named listed some_text free, Format.ofTexts_of_read read]
      simp only [registry.missingKeys_written read]
  | stored named listed some_text free read complete =>
      rw [registry.registerFormat_of_free named listed some_text free, Format.ofTexts_of_read read]
      simp only [registry.missingKeys_written read, complete]

/-- Texts are all tokens, or one of them is the first that is not. -/
theorem read_or_exists_unread (texts : List String) :
    (∀ text ∈ texts, Token.parse? text ≠ none) ∨
      ∃ front text back, texts = front ++ text :: back ∧
        (∀ earlier ∈ front, Token.parse? earlier ≠ none) ∧ Token.parse? text = none := by
  cases found : texts.find? fun text => (Token.parse? text).isNone with
  | none =>
      refine Or.inl fun text within unread => ?_
      simpa [unread] using List.find?_eq_none.mp found text within
  | some text =>
      obtain ⟨unread, front, back, parts, before⟩ := List.find?_eq_some_iff_append.mp found
      refine Or.inr ⟨front, text, back, parts, fun earlier within unread => ?_,
        by simpa using unread⟩
      simpa [unread] using before earlier within

/-- Some clause applies to every registration. -/
theorem exists_formatAnswer (registry : Registry σ) (name tokens : Value) :
    ∃ answer, registry.FormatAnswer name tokens answer := by
  by_cases named : ∃ label, name = .str label ∧ label ≠ ""
  · obtain ⟨label, rfl, nonempty⟩ := named
    by_cases listed : ∃ texts, tokens.IsSequenceOf texts ∧ texts ≠ []
    · obtain ⟨texts, listed, some_text⟩ := listed
      by_cases taken : label ∈ registry.formats.names
      · exact ⟨_, .taken nonempty listed some_text taken⟩
      · rcases read_or_exists_unread texts with read | ⟨front, text, back, rfl, read, unread⟩
        · by_cases complete : registry.missingFrom texts = []
          · exact ⟨_, .stored nonempty listed some_text taken read complete⟩
          · exact ⟨_, .missing nonempty listed taken read complete⟩
        · exact ⟨_, .malformed nonempty listed taken read unread⟩
    · refine ⟨_, .badTokens nonempty fun texts sequence => ?_⟩
      by_contra some_text
      exact listed ⟨texts, sequence, some_text⟩
  · refine ⟨_, .badName fun label same => ?_⟩
    by_contra nonempty
    exact named ⟨label, same, nonempty⟩

/-- A registry answers to the registration of a format what the first clause that applies says, for
every name and all tokens. -/
theorem registerFormat_eq_iff_formatAnswer (registry : Registry σ) (name tokens : Value)
    (answer : Except Refusal (Registry σ)) :
    registry.registerFormat name tokens = answer ↔ registry.FormatAnswer name tokens answer := by
  constructor
  · rintro rfl
    obtain ⟨answer, answered⟩ := registry.exists_formatAnswer name tokens
    rw [answered.registerFormat_eq]
    exact answered
  · exact FormatAnswer.registerFormat_eq

-- The text that is no token comes before the keys without an extractor, wherever it stands.
example :
    let fresh : Registry Unit := ⟨Extractor.builtins Credentials.userName, []⟩
    fresh.registerFormat (.str "own") (.list [.str "nobody", .str "url[]", .str "no token"]) =
      .error (.malformedToken "url[]") := rfl

end Registry
end RequestLog
