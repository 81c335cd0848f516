import RequestLog.Proofs.Text.Trimmed
import RequestLog.Registry

/-!
# The grammar of tokens

A token is spelt by a name that may be followed by a body between brackets.  A text has at most one
spelling (`Spelling.text_injective`), as a name goes as far as it can and the body ends with the
last bracket.  Reading finds the spelling if there is one: `parse?_text` reads every spelling, and
`exists_spelling_of_parse?` says that nothing else is read.
-/

namespace RequestLog
namespace Token

/-- A way to write a token: a name and perhaps a body between brackets. -/
@[ext]
structure Spelling where
  /-- The name as it is written. -/
  name : List Char
  /-- The text between the brackets, if there are brackets. -/
  body : Option (List Char)
  /-- There is a name. -/
  name_ne_nil : name ≠ []
  /-- The name is a run of word characters, dollar signs and hyphens. -/
  isNameChar_of_mem : ∀ c ∈ name, isNameChar c = true
  /-- There is something between the brackets. -/
  body_ne_nil : ∀ inside, body = some inside → inside ≠ []
  /-- No line feed stands between the brackets. -/
  newline_not_mem : ∀ inside, body = some inside → '\n' ∉ inside

namespace Spelling

/-- What follows the name. -/
def suffix (spelling : Spelling) : List Char :=
  match spelling.body with
  | none => []
  | some inside => '[' :: (inside ++ [']'])

/-- The text that is written. -/
def text (spelling : Spelling) : String :=
  String.ofList (spelling.name ++ spelling.suffix)

/-- What the body holds between commas, without the blanks around it. -/
def arguments (spelling : Spelling) : List String :=
  match spelling.body with
  | none => []
  | some inside => (inside.splitOn ',').map fun piece => String.ofList (Text.trim piece)

/-- The token that is written. -/
def token (spelling : Spelling) : Token :=
  ⟨spelling.text, Text.lowercase (String.ofList spelling.name), spelling.arguments⟩

/-- The suffix begins with a character that no name holds. -/
theorem isNameChar_of_head?_suffix (spelling : Spelling) {c : Char}
    (first : spelling.suffix.head? = some c) : isNameChar c = false := by
  rw [suffix] at first
  split at first
  · cases first
  · obtain rfl := Option.some.inj first
    decide

theorem takeWhile_text (spelling : Spelling) :
    spelling.text.toList.takeWhile isNameChar = spelling.name := by
  rw [text, String.toList_ofList, List.takeWhile_append_of_pos spelling.isNameChar_of_mem]
  cases starts : spelling.suffix with
  | nil => rw [List.takeWhile_nil, List.append_nil]
  | cons c rest =>
      have outside := spelling.isNameChar_of_head?_suffix (c := c) (by rw [starts, List.head?_cons])
      rw [List.takeWhile_cons_of_neg (by simp [outside]), List.append_nil]

theorem dropWhile_text (spelling : Spelling) :
    spelling.text.toList.dropWhile isNameChar = spelling.suffix := by
  have parts := List.takeWhile_append_dropWhile (p := isNameChar) (l := spelling.text.toList)
  rw [takeWhile_text] at parts
  have written : spelling.text.toList = spelling.name ++ spelling.suffix := by
    rw [text, String.toList_ofList]
  exact List.append_cancel_left (parts.trans written)

/-- A text has one spelling at most. -/
theorem text_injective : Function.Injective text := by
  intro left right same
  have names : left.name = right.name := by rw [← takeWhile_text, same, takeWhile_text]
  have suffixes : left.suffix = right.suffix := by rw [← dropWhile_text, same, dropWhile_text]
  refine Spelling.ext names ?_
  cases left_body : left.body with
  | none =>
      cases right_body : right.body with
      | none => rfl
      | some inside => simp [suffix, left_body, right_body] at suffixes
  | some inside =>
      cases right_body : right.body with
      | none => simp [suffix, left_body, right_body] at suffixes
      | some other =>
          simp only [suffix, left_body, right_body, List.cons.injEq, true_and] at suffixes
          rw [List.append_cancel_right suffixes]

/-- There is one argument more than there are commas in the body. -/
theorem length_arguments (spelling : Spelling) {inside : List Char}
    (bracketed : spelling.body = some inside) :
    spelling.arguments.length = inside.count ',' + 1 := by
  rw [arguments, bracketed, List.length_map, ← Text.pieces_eq_splitOn, Text.length_pieces]

/-- What is written holds no line feed. -/
theorem newline_not_mem_text (spelling : Spelling) : '\n' ∉ spelling.text.toList := by
  have outside_name : '\n' ∉ spelling.name := fun within =>
    absurd (spelling.isNameChar_of_mem _ within) (by decide)
  rw [text, String.toList_ofList, List.mem_append, suffix]
  refine not_or.mpr ⟨outside_name, ?_⟩
  split
  · simp
  · next inside bracketed => simpa using spelling.newline_not_mem inside bracketed

end Spelling

/-- What stands between brackets: the first one opens, the last one closes, and more may stand
inside. -/
theorem bracketed?_eq_some_iff {suffix inside : List Char} :
    bracketed? suffix = some inside ↔
      suffix = '[' :: (inside ++ [']']) ∧ inside ≠ [] ∧ '\n' ∉ inside := by
  constructor
  · intro read
    unfold bracketed? at read
    split at read
    · next rest =>
        split at read
        · next shape =>
            obtain ⟨closed, nonempty, one_line⟩ := shape
            obtain rfl := Option.some.inj read
            exact ⟨by rw [List.dropLast_append_getLast? _ closed], nonempty, one_line⟩
        · cases read
    · cases read
  · rintro ⟨rfl, nonempty, one_line⟩
    simp [bracketed?, nonempty, one_line]

/-- Every spelling is read as the token that it writes. -/
theorem parse?_text (spelling : Spelling) : parse? spelling.text = some spelling.token := by
  have suffixed : suffixArguments? spelling.suffix = some spelling.arguments := by
    rw [Spelling.suffix, Spelling.arguments]
    split
    · rfl
    · next inside bracketed =>
        have read := bracketed?_eq_some_iff.mpr ⟨rfl, spelling.body_ne_nil inside bracketed,
          spelling.newline_not_mem inside bracketed⟩
        simp only [suffixArguments?, read, Option.map_some, argumentsOf, Text.pieces_eq_splitOn]
  simp only [parse?, spelling.takeWhile_text, spelling.dropWhile_text, spelling.name_ne_nil,
    ↓reduceIte, suffixed, Option.map_some, Spelling.token, Text.lowercase, String.toList_ofList]

/-- What is read has a spelling. -/
theorem exists_spelling_of_parse? {text : String} {token : Token}
    (read : parse? text = some token) : ∃ spelling : Spelling, spelling.text = text := by
  let name := text.toList.takeWhile isNameChar
  have parts : name ++ text.toList.dropWhile isNameChar = text.toList :=
    List.takeWhile_append_dropWhile
  have named : ∀ c ∈ name, isNameChar c = true := fun c within => List.mem_takeWhile_imp within
  simp only [parse?] at read
  split at read
  · cases read
  · next some_name =>
      obtain ⟨args, suffixed, -⟩ := Option.map_eq_some_iff.mp read
      unfold suffixArguments? at suffixed
      split at suffixed
      · next nothing =>
          refine ⟨⟨name, none, some_name, named, nofun, nofun⟩, ?_⟩
          rw [nothing] at parts
          rw [Spelling.text, Spelling.suffix, parts, String.ofList_toList]
      · obtain ⟨inside, bracketed, -⟩ := Option.map_eq_some_iff.mp suffixed
        obtain ⟨shape, nonempty, one_line⟩ := bracketed?_eq_some_iff.mp bracketed
        refine ⟨⟨name, some inside, some_name, named, ?_, ?_⟩, ?_⟩
        · rintro _ ⟨⟩
          exact nonempty
        · rintro _ ⟨⟩
          exact one_line
        · rw [shape] at parts
          rw [Spelling.text, Spelling.suffix, parts, String.ofList_toList]

/-- The text of a token holds no line feed. -/
theorem newline_not_mem_of_parse? {text : String} {token : Token}
    (read : parse? text = some token) : '\n' ∉ text.toList := by
  obtain ⟨spelling, rfl⟩ := exists_spelling_of_parse? read
  exact spelling.newline_not_mem_text

/-- A text is read exactly if it has a spelling, and as the token of the spelling. -/
theorem parse?_eq_some_iff {text : String} {token : Token} :
    parse? text = some token ↔
      ∃ spelling : Spelling, spelling.text = text ∧ spelling.token = token := by
  constructor
  · intro read
    obtain ⟨spelling, rfl⟩ := exists_spelling_of_parse? read
    rw [parse?_text] at read
    exact ⟨spelling, rfl, Option.some.inj read⟩
  · rintro ⟨spelling, rfl, rfl⟩
    exact parse?_text spelling

theorem parse?_eq_none_iff {text : String} :
    parse? text = none ↔ ∀ spelling : Spelling, spelling.text ≠ text := by
  rw [Option.eq_none_iff_forall_ne_some]
  constructor
  · rintro unread spelling rfl
    exact unread _ (parse?_text spelling)
  · intro unspelt token read
    obtain ⟨spelling, same⟩ := exists_spelling_of_parse? read
    exact unspelt spelling same

theorem ofValue_str_eq_ok_iff {text : String} {token : Token} :
    ofValue (.str text) = .ok token ↔ parse? text = some token := by
  rw [ofValue]
  cases parse? text <;> simp

/-- A value is read as a token exactly if it is a text that has a spelling: the text has no other
one, and the token has the text, the lower case of the name, and the arguments in the body, one more
than there are commas.  Every other text is refused as it stands, and every other value as it is
shown. -/
theorem ofValue_eq_ok_iff_spelling :
    Function.Injective Spelling.text ∧
    (∀ (value : Value) (token : Token), ofValue value = .ok token ↔
      ∃ spelling : Spelling, value = .str spelling.text ∧ token.raw = spelling.text ∧
        token.key = Text.lowercase (String.ofList spelling.name) ∧
        token.args = spelling.arguments ∧
        ∀ inside, spelling.body = some inside → token.args.length = inside.count ',' + 1) ∧
    (∀ text : String, (∀ spelling : Spelling, spelling.text ≠ text) →
      ofValue (.str text) = .error (.malformedToken text)) ∧
    ∀ value : Value, (∀ text, value ≠ .str text) →
      ofValue value = .error (.malformedToken value.shown) := by
  refine ⟨Spelling.text_injective, fun value token => ⟨fun read => ?_, ?_⟩, fun text unspelt => ?_,
    fun value no_text => ?_⟩
  · cases value with
    | str text =>
        obtain ⟨spelling, rfl, rfl⟩ := parse?_eq_some_iff.mp (ofValue_str_eq_ok_iff.mp read)
        exact ⟨spelling, rfl, rfl, rfl, rfl, fun _ => spelling.length_arguments⟩
    | _ => cases read
  · rintro ⟨spelling, rfl, raw_eq, key_eq, args_eq, -⟩
    have same : token = spelling.token := by
      cases token
      simp_all [Spelling.token]
    exact ofValue_str_eq_ok_iff.mpr (same ▸ parse?_text spelling)
  · rw [ofValue, parse?_eq_none_iff.mpr unspelt]
  · cases value with
    | str text => exact absurd rfl (no_text text)
    | _ => rfl

end Token
end RequestLog
