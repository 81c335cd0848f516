import Mathlib.Data.List.Induction
import RequestLog.Proofs.Registry.Soundness

/-!
# The format that texts write

A list of texts writes a format with one token for each key that occurs, in the order in which the
keys come first; of several texts with one key the last one counts (`ofTexts_of_read`).
`raws_of_ofTexts` says this of the texts that the fields of a record go by.  A text that is no token
stops the reading, whatever comes after it (`ofTexts_of_unread`).
-/

namespace RequestLog
namespace Catalog

variable {α : Type}

/-- Where no name occurs twice, the entries are the names with what they are looked up to. -/
theorem eq_filterMap_find? {catalog : Catalog α} (distinct : catalog.names.Nodup) :
    catalog = catalog.names.filterMap fun name => (catalog.find? name).map (name, ·) := by
  have same : ∀ entry ∈ catalog, (catalog.find? entry.1).map (entry.1, ·) = some entry := by
    intro entry present
    rw [find?_of_mem distinct present, Option.map_some]
  rw [names, List.filterMap_map]
  exact ((List.filterMap_congr same).trans List.filterMap_some).symm

/-- Where no name occurs twice, the values are what the names are looked up to. -/
theorem map_snd_eq_filterMap_find? {catalog : Catalog α} (distinct : catalog.names.Nodup) :
    catalog.map Prod.snd = catalog.names.filterMap catalog.find? := by
  conv_lhs => rw [eq_filterMap_find? distinct, List.map_filterMap]
  refine List.filterMap_congr fun name _ => ?_
  cases catalog.find? name <;> rfl

end Catalog

/-! ## The texts of a value -/

/-- The value is the sequence of the texts. -/
def Value.IsSequenceOf (value : Value) (texts : List String) : Prop :=
  value = .list (texts.map .str) ∨ value = .tuple (texts.map .str)

namespace Value

theorem mapM_asText?_map_str (texts : List String) :
    (texts.map Value.str).mapM texts?.asText? = some texts := by
  induction texts with
  | nil => rfl
  | cons text rest ih => simp [texts?.asText?, ih]

theorem mapM_asText?_eq_some_iff {items : List Value} {texts : List String} :
    items.mapM texts?.asText? = some texts ↔ items = texts.map .str := by
  constructor
  · intro read
    induction items generalizing texts with
    | nil =>
        cases read
        rfl
    | cons item rest ih =>
        rw [List.mapM_cons] at read
        obtain ⟨first, head, read⟩ := Option.bind_eq_some_iff.mp read
        obtain ⟨others, tail, joined⟩ := Option.bind_eq_some_iff.mp read
        cases joined
        cases item with
        | str text =>
            cases head
            rw [ih tail]
            rfl
        | _ => cases head
  · rintro rfl
    exact mapM_asText?_map_str texts

theorem texts?_eq_some_iff {value : Value} {texts : List String} :
    value.texts? = some texts ↔ value.IsSequenceOf texts := by
  cases value with
  | list items => simp [texts?, IsSequenceOf, mapM_asText?_eq_some_iff]
  | tuple items => simp [texts?, IsSequenceOf, mapM_asText?_eq_some_iff]
  | _ => simp [texts?, IsSequenceOf]

end Value

namespace Registry

theorem nameOf?_eq_some_iff {value : Value} {label : String} :
    nameOf? value = some label ↔ value = .str label ∧ label ≠ "" := by
  cases value with
  | str text =>
      rw [nameOf?, Value.str.injEq]
      split
      · next empty =>
          constructor
          · intro found
            cases found
          · rintro ⟨rfl, named⟩
            exact absurd (String.isEmpty_iff.mp empty) named
      · next nonempty =>
          rw [Option.some.injEq]
          constructor
          · rintro rfl
            exact ⟨rfl, fun empty => nonempty (String.isEmpty_iff.mpr empty)⟩
          · exact And.left
  | _ => simp [nameOf?]

theorem tokenTexts?_eq_some_iff {tokens : Value} {texts : List String} :
    tokenTexts? tokens = some texts ↔ tokens.IsSequenceOf texts ∧ texts ≠ [] := by
  rw [← Value.texts?_eq_some_iff, tokenTexts?]
  split
  · next empty =>
      rw [empty]
      constructor
      · intro found
        cases found
      · rintro ⟨read, some_text⟩
        exact absurd (Option.some.inj read).symm some_text
  · next nonempty =>
      constructor
      · intro found
        exact ⟨found, fun empty => nonempty (empty ▸ found)⟩
      · exact And.left

theorem tokenTexts?_list_eq_some_iff {given texts : List String} :
    tokenTexts? (.list (given.map .str)) = some texts ↔ texts = given ∧ texts ≠ [] := by
  rw [tokenTexts?_eq_some_iff, Value.IsSequenceOf]
  have same : given.map Value.str = texts.map Value.str ↔ texts = given := by
    rw [List.map_inj_right fun _ _ => Value.str.inj, eq_comm]
  simp [same]

end Registry

/-! ## The tokens of texts -/

namespace Format

/-- The key that a text names, if the text is a token. -/
def keyOf? (text : String) : Option String :=
  (Token.parse? text).map Token.key

/-- The keys that texts name, each once, in the order in which they come first. -/
def keysOf (texts : List String) : List String :=
  (texts.filterMap keyOf?).eraseDups

/-- The last of the texts that name a key. -/
def lastText? (texts : List String) (key : String) : Option String :=
  texts.reverse.find? fun text => keyOf? text == some key

/-- The fields that texts ask for: one for each key, by the last text that names it. -/
def fieldTexts (texts : List String) : List String :=
  (keysOf texts).filterMap (lastText? texts)

/-- The token of the last text that names a key. -/
def lastToken? (texts : List String) (key : String) : Option Token :=
  (lastText? texts key).bind Token.parse?

/-- The format of texts: for each key that they name, the token of the last one that does. -/
def written (texts : List String) : Format :=
  (keysOf texts).filterMap fun key => (lastToken? texts key).map (key, ·)

theorem keysOf_concat (front : List String) {text key : String} (named : keyOf? text = some key) :
    keysOf (front ++ [text]) =
      if key ∈ keysOf front then keysOf front else keysOf front ++ [key] := by
  have last : [text].filterMap keyOf? = [key] := by simp [named]
  simp only [keysOf, List.filterMap_append, last, List.eraseDups_append, List.mem_eraseDups]
  by_cases known : key ∈ front.filterMap keyOf?
  · rw [if_pos known]
    have nothing_new : [key].removeAll (front.filterMap keyOf?) = [] := by
      simpa [List.removeAll] using known
    rw [nothing_new, List.eraseDups_nil, List.append_nil]
  · rw [if_neg known]
    have something_new : [key].removeAll (front.filterMap keyOf?) = [key] := by
      simpa [List.removeAll] using known
    rw [something_new]
    rfl

theorem lastText?_concat (front : List String) {text key : String} (named : keyOf? text = some key)
    (other : String) :
    lastText? (front ++ [text]) other =
      if key = other then some text else lastText? front other := by
  rw [lastText?, List.reverse_append, List.reverse_singleton, List.singleton_append,
    List.find?_cons, named]
  by_cases same : key = other
  · simp [same]
  · have differs : (key == other) = false := by simpa using same
    simp [same, differs, lastText?]

theorem addTexts_append (format : Format) (front back : List String) :
    format.addTexts (front ++ back) = (format.addTexts front).bind fun middle =>
      middle.addTexts back := by
  induction front generalizing format with
  | nil => rfl
  | cons text rest ih =>
      rw [List.cons_append, addTexts, addTexts]
      cases Token.parse? text with
      | none => rfl
      | some token => exact ih _

/-- The last text of a list adds its token to the format that the texts before it write. -/
theorem ofTexts_concat {front : List String} {text : String} {written : Format}
    (read : ofTexts (front ++ [text]) = .ok written) :
    ∃ middle token, ofTexts front = .ok middle ∧ Token.parse? text = some token ∧
      written = Catalog.put middle token.key token := by
  rw [ofTexts, addTexts_append] at read
  cases begun : addTexts [] front with
  | error refusal =>
      rw [begun] at read
      cases read
  | ok middle =>
      rw [begun] at read
      cases found : Token.parse? text with
      | none => simp [Except.bind, addTexts, found] at read
      | some token =>
          refine ⟨middle, token, begun, rfl, ?_⟩
          simpa [Except.bind, addTexts, found, eq_comm] using read

/-- The names of a written format are the keys of the texts, and each stands for the token of the
last text that names it. -/
theorem names_and_tokens_of_ofTexts {texts : List String} {format : Format}
    (read : ofTexts texts = .ok format) :
    Catalog.names format = keysOf texts ∧
      ∀ key, (Catalog.find? format key).map Token.raw = lastText? texts key := by
  induction texts using List.reverseRecOn generalizing format with
  | nil =>
      obtain rfl := Except.ok.inj read
      exact ⟨rfl, fun _ => rfl⟩
  | append_singleton front text ih =>
      obtain ⟨middle, token, begun, found, rfl⟩ := ofTexts_concat read
      obtain ⟨names_eq, tokens_eq⟩ := ih begun
      have named : keyOf? text = some token.key := by rw [keyOf?, found, Option.map_some]
      constructor
      · rw [Catalog.names_put, keysOf_concat front named, names_eq]
      · intro key
        rw [Catalog.find?_put, lastText?_concat front named, ← tokens_eq]
        split
        · rw [Option.map_some, Token.raw_of_parse? found]
        · rfl

/-- Only the format of the texts is written. -/
theorem eq_written_of_ofTexts {texts : List String} {format : Format}
    (read : ofTexts texts = .ok format) : format = written texts := by
  obtain ⟨names_eq, raws_eq⟩ := names_and_tokens_of_ofTexts read
  have keyed : format.Keyed := keyed_nil.addTexts read
  have tokens_eq (key : String) : Catalog.find? format key = lastToken? texts key := by
    rw [lastToken?, ← raws_eq]
    cases found : Catalog.find? format key with
    | none => rfl
    | some token => exact (keyed.read _ (Catalog.mem_of_find? found)).symm
  rw [Catalog.eq_filterMap_find? keyed.distinct, names_eq, written]
  simp only [tokens_eq]

/-- The first text that is no token stops the reading. -/
theorem addTexts_of_unread {front : List String} (read : ∀ text ∈ front, Token.parse? text ≠ none)
    {text : String} (unread : Token.parse? text = none) (format : Format) (back : List String) :
    format.addTexts (front ++ text :: back) = .error (.malformedToken text) := by
  induction front generalizing format with
  | nil => rw [List.nil_append, addTexts, unread]
  | cons first rest ih =>
      obtain ⟨token, found⟩ := Option.ne_none_iff_exists'.mp (read first List.mem_cons_self)
      rw [List.cons_append, addTexts, found]
      exact ih (fun later within => read later (List.mem_cons_of_mem _ within)) _

theorem ofTexts_of_unread {front : List String} (read : ∀ text ∈ front, Token.parse? text ≠ none)
    {text : String} (unread : Token.parse? text = none) (back : List String) :
    ofTexts (front ++ text :: back) = .error (.malformedToken text) :=
  addTexts_of_unread read unread [] back

theorem exists_addTexts {texts : List String} (read : ∀ text ∈ texts, Token.parse? text ≠ none)
    (format : Format) : ∃ later, format.addTexts texts = .ok later := by
  induction texts generalizing format with
  | nil => exact ⟨format, rfl⟩
  | cons text rest ih =>
      obtain ⟨token, found⟩ := Option.ne_none_iff_exists'.mp (read text List.mem_cons_self)
      rw [addTexts, found]
      exact ih (fun later within => read later (List.mem_cons_of_mem _ within)) _

/-- Texts that are all tokens write their format. -/
theorem ofTexts_of_read {texts : List String} (read : ∀ text ∈ texts, Token.parse? text ≠ none) :
    ofTexts texts = .ok (written texts) := by
  obtain ⟨format, written_so⟩ := exists_addTexts read []
  rw [← eq_written_of_ofTexts written_so]
  exact written_so

theorem names_written {texts : List String} (read : ∀ text ∈ texts, Token.parse? text ≠ none) :
    Catalog.names (written texts) = keysOf texts :=
  (names_and_tokens_of_ofTexts (ofTexts_of_read read)).1

/-- The texts of the tokens of a written format are one for each key, the last one that names it. -/
theorem raws_of_ofTexts {texts : List String} {format : Format}
    (read : ofTexts texts = .ok format) : format.tokens.map Token.raw = fieldTexts texts := by
  obtain ⟨names_eq, tokens_eq⟩ := names_and_tokens_of_ofTexts read
  have distinct : (Catalog.names format).Nodup := (keyed_nil.addTexts read).distinct
  rw [tokens, Catalog.map_snd_eq_filterMap_find? distinct, List.map_filterMap, names_eq, fieldTexts]
  exact List.filterMap_congr fun key _ => tokens_eq key

end Format
end RequestLog
