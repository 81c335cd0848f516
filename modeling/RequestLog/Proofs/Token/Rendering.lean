import RequestLog.Proofs.Token.Grammar

/-!
# Rendering tokens

Rendering a key with arguments writes a token, and reading the text gives the key and the arguments
back.  The one list that gets lost is that of a single empty argument, as nothing may not stand
between brackets.  The arguments of every token that is read can be written again.
-/

namespace RequestLog
namespace Token

/-- A key that is a name as it stands. -/
structure IsKey (key : String) : Prop where
  /-- The key is not empty. -/
  ne_empty : key ≠ ""
  /-- It is a run of word characters, dollar signs and hyphens. -/
  isNameChar_of_mem : ∀ c ∈ key.toList, isNameChar c = true
  /-- It is in lower case. -/
  lowercase_eq : Text.lowercase key = key

/-- A text that stands for itself between commas. -/
structure IsArgument (argument : String) : Prop where
  /-- No comma cuts it. -/
  comma_not_mem : ',' ∉ argument.toList
  /-- It is on one line. -/
  newline_not_mem : '\n' ∉ argument.toList
  /-- No blank stands at either end. -/
  trimmed : Text.IsTrimmed argument.toList

/-- Texts without commas are the pieces of what they are joined to. -/
theorem pieces_intercalate {args : List String} (some_arg : args ≠ [])
    (isArgument : ∀ argument ∈ args, IsArgument argument) :
    Text.pieces ',' ([','].intercalate (args.map String.toList)) = args.map String.toList := by
  rw [Text.pieces_eq_splitOn]
  refine List.splitOn_intercalate ',' (fun piece listed => ?_) (by simpa using some_arg)
  obtain ⟨argument, present, rfl⟩ := List.mem_map.mp listed
  exact (isArgument argument present).comma_not_mem

/-- What arguments are joined to stands between brackets, unless it is empty. -/
theorem intercalate_ne_nil {args : List String} (some_arg : args ≠ [])
    (isArgument : ∀ argument ∈ args, IsArgument argument) (some_text : args ≠ [""]) :
    [','].intercalate (args.map String.toList) ≠ [] := by
  intro empty
  have cut := pieces_intercalate some_arg isArgument
  rw [empty, Text.pieces] at cut
  obtain ⟨argument, rfl, nothing⟩ := List.map_eq_singleton_iff.mp cut.symm
  exact some_text (by rw [String.toList_eq_nil_iff.mp nothing])

theorem newline_not_mem_intercalate {args : List String} (some_arg : args ≠ [])
    (isArgument : ∀ argument ∈ args, IsArgument argument) :
    '\n' ∉ [','].intercalate (args.map String.toList) := by
  intro within
  have differs : '\n' ≠ ',' := by decide
  obtain ⟨piece, cut, inside⟩ := Text.exists_mem_pieces_iff.mpr ⟨within, differs⟩
  rw [pieces_intercalate some_arg isArgument] at cut
  obtain ⟨argument, present, rfl⟩ := List.mem_map.mp cut
  exact (isArgument argument present).newline_not_mem inside

/-- A key with a text between brackets is spelt by the two. -/
theorem exists_spelling_bracketed {key : String} (isKey : IsKey key) {body : List Char}
    (some_body : body ≠ []) (one_line : '\n' ∉ body) :
    ∃ spelling : Spelling, spelling.text = key ++ "[" ++ String.ofList body ++ "]" ∧
      spelling.name = key.toList ∧ spelling.body = some body := by
  have some_name : key.toList ≠ [] :=
    fun empty => isKey.ne_empty (String.toList_eq_nil_iff.mp empty)
  refine ⟨⟨key.toList, some body, some_name, isKey.isNameChar_of_mem, ?_, ?_⟩, ?_, rfl, rfl⟩
  · rintro _ ⟨⟩
    exact some_body
  · rintro _ ⟨⟩
    exact one_line
  · apply String.toList_injective
    simp [Spelling.text, Spelling.suffix]

/-- What is rendered is spelt by the key and has the arguments that were rendered. -/
theorem exists_spelling_render {key : String} {args : List String} (isKey : IsKey key)
    (isArgument : ∀ argument ∈ args, IsArgument argument) (some_text : args ≠ [""]) :
    ∃ spelling : Spelling, spelling.text = render key args ∧ spelling.name = key.toList ∧
      spelling.arguments = args := by
  cases args with
  | nil =>
      have some_name : key.toList ≠ [] := fun empty =>
        isKey.ne_empty (String.toList_eq_nil_iff.mp empty)
      refine ⟨⟨key.toList, none, some_name, isKey.isNameChar_of_mem, nofun, nofun⟩, ?_, rfl, rfl⟩
      simp [Spelling.text, Spelling.suffix, render]
  | cons first rest =>
      let args := first :: rest
      have some_arg : args ≠ [] := List.cons_ne_nil first rest
      obtain ⟨spelling, text_eq, name_eq, body_eq⟩ := exists_spelling_bracketed isKey
        (intercalate_ne_nil some_arg isArgument some_text)
        (newline_not_mem_intercalate some_arg isArgument)
      refine ⟨spelling, ?_, name_eq, ?_⟩
      · rw [text_eq]
        apply String.toList_injective
        simp [render, args, String.toList_intercalate]
      · simp only [Spelling.arguments, body_eq]
        rw [← Text.pieces_eq_splitOn, pieces_intercalate some_arg isArgument, List.map_map]
        refine (List.map_congr_left fun argument present => ?_).trans (List.map_id args)
        rw [Function.comp_apply, Text.trim_of_isTrimmed (isArgument argument present).trimmed,
          String.ofList_toList, id_eq]

/-- A token that is spelt with a key is read as one of the key. -/
theorem ofValue_of_spelling {key text : String} {args : List String} (isKey : IsKey key)
    {spelling : Spelling} (text_eq : spelling.text = text) (name_eq : spelling.name = key.toList)
    (args_eq : spelling.arguments = args) : ofValue (.str text) = .ok ⟨text, key, args⟩ := by
  have read := ofValue_str_eq_ok_iff.mpr (parse?_text spelling)
  rwa [Spelling.token, name_eq, String.ofList_toList, isKey.lowercase_eq, args_eq, text_eq] at read

theorem ofValue_key {key : String} (isKey : IsKey key) :
    ofValue (.str key) = .ok ⟨key, key, []⟩ := by
  obtain ⟨spelling, text_eq, name_eq, args_eq⟩ :=
    exists_spelling_render isKey (fun _ within => absurd within List.not_mem_nil)
      (List.ne_cons_self)
  exact ofValue_of_spelling isKey text_eq name_eq args_eq

/-- The arguments of a spelling can be rendered. -/
theorem Spelling.isArgument_of_mem (spelling : Spelling) {argument : String}
    (present : argument ∈ spelling.arguments) : IsArgument argument := by
  rw [arguments] at present
  split at present
  · cases present
  · next inside bracketed =>
      obtain ⟨piece, cut, rfl⟩ := List.mem_map.mp present
      rw [← Text.pieces_eq_splitOn] at cut
      have of_body {c : Char} (within : c ∈ Text.trim piece) : c ∈ inside ∧ c ≠ ',' :=
        Text.exists_mem_pieces_iff.mp ⟨piece, cut, Text.mem_of_mem_trim within⟩
      constructor <;> rw [String.toList_ofList]
      · exact fun comma => (of_body comma).2 rfl
      · exact fun newline => spelling.newline_not_mem inside bracketed (of_body newline).1
      · exact Text.isTrimmed_trim piece

/-- A key and arguments that are rendered are read back as they were, unless there is but one
argument and it is empty.  Whatever is read has arguments that can be rendered, so a token that was
read, with a key that can be rendered, is rendered to a text with its key and arguments. -/
theorem rendering_inverts_reading :
    (∀ (key : String) (args : List String), IsKey key → (∀ argument ∈ args, IsArgument argument) →
      args ≠ [""] → ofValue (.str (render key args)) = .ok ⟨render key args, key, args⟩) ∧
    ∀ (value : Value) (token : Token), ofValue value = .ok token →
      (∀ argument ∈ token.args, IsArgument argument) ∧
      (IsKey token.key → token.args ≠ [""] →
        ofValue (.str (render token.key token.args)) =
          .ok ⟨render token.key token.args, token.key, token.args⟩) := by
  have read_back {key : String} {args : List String} (isKey : IsKey key)
      (isArgument : ∀ argument ∈ args, IsArgument argument) (some_text : args ≠ [""]) :
      ofValue (.str (render key args)) = .ok ⟨render key args, key, args⟩ := by
    obtain ⟨spelling, text_eq, name_eq, args_eq⟩ :=
      exists_spelling_render isKey isArgument some_text
    have read := ofValue_str_eq_ok_iff.mpr (parse?_text spelling)
    rwa [Spelling.token, name_eq, String.ofList_toList, isKey.lowercase_eq, args_eq, text_eq]
      at read
  refine ⟨fun key args => read_back, fun value token read => ?_⟩
  have isArgument : ∀ argument ∈ token.args, IsArgument argument := by
    cases value with
    | str text =>
        obtain ⟨spelling, -, rfl⟩ := parse?_eq_some_iff.mp (ofValue_str_eq_ok_iff.mp read)
        exact fun argument present => spelling.isArgument_of_mem present
    | _ => cases read
  exact ⟨isArgument, fun isKey some_text => read_back isKey isArgument some_text⟩

/-- Brackets may stand in arguments, whole or single, and arguments may be empty at either end. -/
theorem rendering_inverts_reading_of_brackets :
    let key := "req-2$"
    let args := ["", "größe a", "[x]]", "][", ""]
    IsKey key ∧ (∀ argument ∈ args, IsArgument argument) ∧ args ≠ [""] ∧
      render key args = "req-2$[,größe a,[x]],][,]" ∧
      ofValue (.str "req-2$[,größe a,[x]],][,]") =
        .ok ⟨"req-2$[,größe a,[x]],][,]", key, args⟩ := by
  intro key args
  have isKey : IsKey key := ⟨by decide, List.all_eq_true.mp (by decide), by decide +kernel⟩
  have isArgument : ∀ argument ∈ args, IsArgument argument := by
    intro argument present
    have plain : ',' ∉ argument.toList ∧ '\n' ∉ argument.toList ∧
        Text.trim argument.toList = argument.toList := by
      revert argument
      decide +kernel
    exact ⟨plain.1, plain.2.1, (Text.trim_eq_iff.mp plain.2.2).1⟩
  have some_text : args ≠ [""] := by decide
  exact ⟨isKey, isArgument, some_text, rfl,
    rendering_inverts_reading.1 key args isKey isArgument some_text⟩

end Token
end RequestLog
