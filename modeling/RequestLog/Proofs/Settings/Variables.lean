import RequestLog.Proofs.Json.QuotedText
import RequestLog.Proofs.Settings.Fields

/-!
# Variables and options

A text means the same as the variable of a setting and as the option for it, but for the format.
The variable of the format is read as JSON if it is JSON, and then it never means what the text
means as an option.  Still, every format can be chosen by its variable, as a text between quotes if
need be.
-/

namespace RequestLog
namespace Settings

/-- The environment that holds the variable of one field. -/
def Environment.only (field : Field) (text : String) : Environment :=
  [("ACCESSLOG_" ++ field.name, text)]

theorem Field.variableName_inj {field other : Field} (listed : field ∈ Field.all)
    (other_listed : other ∈ Field.all) (same : variableName field.name = variableName other.name) :
    field.name = other.name := by
  have distinct : (names.map variableName).Nodup := by decide +kernel
  exact List.inj_on_of_nodup_map distinct (name_mem_names listed) (name_mem_names other_listed) same

namespace Sources

variable {field other : Field} {text : String}

/-- Sources with the variable of one field and nothing else. -/
def variableOnly (field : Field) (text : String) : Sources :=
  ⟨[], Environment.only field text⟩

theorem value?_variableOnly (field : Field) (text : String) :
    (variableOnly field text).value? field.name =
      if field.name = "FORMAT" then
        match Json.read? text with
        | some .null => none
        | some value => some value
        | none => some (.str text)
      else some (.str text) := by
  have found : (Environment.only field text).text? field.name = some text := by
    simp [Environment.only, Environment.text?, variableName]
  rewrite [value?, variableOnly, Catalog.find?_nil, Environment.value?, found]
  rfl

theorem value?_variableOnly_format (text : String) :
    (variableOnly Field.format text).value? Field.format.name =
      match Json.read? text with
      | some .null => none
      | some value => some value
      | none => some (.str text) :=
  (value?_variableOnly Field.format text).trans (if_pos rfl)

theorem value?_variableOnly_of_ne (listed : field ∈ Field.all) (other_listed : other ∈ Field.all)
    (differs : field.name ≠ other.name) : (variableOnly field text).value? other.name = none := by
  have other_variable : variableName field.name ≠ variableName other.name :=
    fun same => differs (Field.variableName_inj listed other_listed same)
  have absent : (Environment.only field text).text? other.name = none := by
    rw [variableName] at other_variable
    simp [Environment.only, Environment.text?, other_variable]
  rw [value?, variableOnly, Catalog.find?_nil]
  simp only [Environment.value?, absent]

/-- Two sources for one field come to the same if they give the same value for it. -/
theorem settings_variableOnly (listed : field ∈ Field.all)
    (same : (variableOnly field text).value? field.name = some (.str text)) :
    (variableOnly field text).settings = (only field (.str text)).settings := by
  apply settings_congr
  · rw [unknown_only listed]
    rfl
  · intro other other_listed
    by_cases differs : field.name = other.name
    · rw [← differs, same, value?_only]
    · rw [value?_variableOnly_of_ne listed other_listed differs, value?_only_of_ne differs]

end Sources

theorem ofOptions_variable (field : Field) (text : String) :
    ofOptions [] (Environment.only field text) =
      outcome (Sources.variableOnly field text).settings :=
  rfl

/-- A variable that is no JSON, or that of another setting than the format, means what the option
means. -/
theorem variable_eq_option {field : Field} (listed : field ∈ Field.all) {text : String}
    (plain : field.name ≠ "FORMAT" ∨ Json.read? text = none) :
    ofOptions [] (Environment.only field text) = ofOptions [(field.name, .str text)] [] := by
  rw [ofOptions_variable, ofOptions_only listed, Sources.settings_variableOnly listed]
  rw [Sources.value?_variableOnly]
  rcases plain with other | no_json
  · rw [if_neg other]
  · rw [no_json, ite_self]

/-! ## The variable of the format -/

theorem format_mem : Field.format ∈ Field.all := by simp [Field.all]

/-- Settings of sources for the format only. -/
theorem settings_of_format {sources : Sources} (no_other : sources.unknown = [])
    (absent : ∀ other ∈ Field.all,
      Field.format.name ≠ other.name → sources.value? other.name = none)
    {choice : FormatChoice} (accepted : sources.checkField Field.format = .accepted choice) :
    sources.settings = .ok { defaults with format := choice } := by
  rw [Sources.settings_eq_ok_iff]
  refine ⟨fun other other_listed => ?_, no_other⟩
  by_cases differs : Field.format.name = other.name
  · obtain rfl := Field.eq_of_name_eq format_mem other_listed differs
    exact accepted
  · have others : ∀ other ∈ Field.all, Field.format.name ≠ other.name →
        other.content defaults = other.content { defaults with format := choice } := by
      simp [Field.all, Field.severity, Field.text, Field.positive, Field.truth, Field.format]
    rw [Sources.checkField_of_none (absent other other_listed differs),
      others other other_listed differs]

/-- A text chooses the format of its name, unless it is empty. -/
theorem read_format_str {name : String} (named : name ≠ "") :
    Field.format.read (.str name) = .ok (.named name) := by
  change readFormat (.str name) = .ok (.named name)
  simp [readFormat, readText, named]

theorem ofOptions_format {name : String} (named : name ≠ "") :
    ofOptions [("FORMAT", .str name)] [] = .ok { defaults with format := .named name } := by
  have settings : (Sources.only Field.format (.str name)).settings =
      .ok { defaults with format := .named name } := by
    apply settings_of_format
    · exact Sources.unknown_only format_mem
    · exact fun other _ differs => Sources.value?_only_of_ne differs
    · exact Sources.checkField_of_ok (Sources.value?_only _ _) (read_format_str named)
  have only := ofOptions_only format_mem (.str name)
  rw [settings] at only
  exact only

/-- What a JSON text writes does not choose the format of the name that is the JSON text. -/
theorem readFormat_ne_of_read? {text : String} {value : Value}
    (read : Json.read? text = some value) : readFormat value ≠ .ok (.named text) := by
  intro chosen
  have as_text : readText value = .ok text := by
    unfold readFormat at chosen
    split at chosen
    · rw [readTokens] at chosen
      split at chosen <;> [split at chosen; skip] <;> cases chosen
    · rw [readTokens] at chosen
      split at chosen <;> [split at chosen; skip] <;> cases chosen
    · split at chosen
      · next text found =>
          split at chosen
          · cases chosen
          · rw [found, FormatChoice.named.inj (Except.ok.inj chosen)]
      · cases chosen
  -- The text that is read would have as many octets as the JSON text that writes it.
  cases value with
  | str name =>
      obtain rfl := Except.ok.inj as_text
      exact absurd (Json.octets_read?_lt read rfl) (Nat.lt_irrefl _)
  | bytes octets =>
      simp only [readText] at as_text
      split at as_text
      · next found encoded =>
          have shorter := Json.octets_read?_lt read rfl
          rw [octets.length_of_text? encoded, Except.ok.inj as_text] at shorter
          exact absurd shorter (Nat.lt_irrefl _)
      · cases as_text
  | _ => cases as_text

/-- The variable of the format means something else than the option if it is JSON. -/
theorem format_variable_ne_option {text : String} {value : Value}
    (read : Json.read? text = some value) :
    ofOptions [] (Environment.only Field.format text) ≠ ofOptions [("FORMAT", .str text)] [] := by
  have named : text ≠ "" := by
    rintro rfl
    have no_json : Json.read? "" = none := by decide +kernel
    rw [no_json] at read
    cases read
  rw [ofOptions_format named]
  intro same
  have accepted := (Sources.settings_eq_ok_iff _ _).mp (settings_of_ofOptions same)
  have format : (Sources.variableOnly Field.format text).checkField Field.format =
      .accepted (.named text) := accepted.1 Field.format format_mem
  have given := Sources.value?_variableOnly_format text
  rw [read] at given
  by_cases null : value = .null
  · subst null
    have default := Sources.content_of_none format given
    rw [FormatChoice.named.inj default] at read
    have no_json : Json.read? "combined" = none := by decide +kernel
    rw [no_json] at read
    cases read
  · have given_value : (Sources.variableOnly Field.format text).value? Field.format.name =
        some value := by
      rw [given]
      cases value <;> first | rfl | exact absurd rfl null
    exact readFormat_ne_of_read? read (Sources.read_of_some format given_value)

/-- The text of the variable that chooses the format of a name. -/
def formatVariable (name : String) : String :=
  if (Json.read? name).isNone then name else String.ofList (Json.writeText name)

theorem value?_formatVariable (name : String) :
    (Sources.variableOnly Field.format (formatVariable name)).value? Field.format.name =
      some (.str name) := by
  by_cases no_json : (Json.read? name).isNone = true
  · rw [formatVariable, if_pos no_json, Sources.value?_variableOnly_format,
      Option.isNone_iff_eq_none.mp no_json]
  · rw [formatVariable, if_neg no_json, Sources.value?_variableOnly_format, Json.read?_writeText]

/-- A text as the variable of a field comes to the same settings or the same complaints as the text
as the option for it, unless it is JSON and the field is the format; then it never does.  Every
format that has a name can be chosen by its variable. -/
theorem variable_eq_option_iff :
    (∀ field ∈ Field.all, ∀ text,
      ofOptions [] [("ACCESSLOG_" ++ field.name, text)] = ofOptions [(field.name, .str text)] [] ↔
        field.name ≠ "FORMAT" ∨ Json.read? text = none) ∧
    ∀ name ≠ "", ofOptions [] [("ACCESSLOG_FORMAT", formatVariable name)] =
      .ok { defaults with format := .named name } := by
  refine ⟨fun field listed text => ⟨fun same => ?_, variable_eq_option listed⟩,
    fun name named => ?_⟩
  · by_contra json_format
    rw [not_or, not_not] at json_format
    obtain ⟨format, json⟩ := json_format
    obtain rfl := Field.eq_of_name_eq listed format_mem format
    obtain ⟨value, read⟩ := Option.ne_none_iff_exists'.mp json
    exact format_variable_ne_option read same
  · have settings : (Sources.variableOnly Field.format (formatVariable name)).settings =
        .ok { defaults with format := .named name } := by
      apply settings_of_format
      · rfl
      · exact fun other listed differs =>
          Sources.value?_variableOnly_of_ne format_mem listed differs
      · exact Sources.checkField_of_ok (value?_formatVariable name) (read_format_str named)
    have outcome_eq := ofOptions_variable Field.format (formatVariable name)
    rw [settings] at outcome_eq
    exact outcome_eq

/-- A number of files is read from the variable as from the option; a format whose name is a number
is chosen by its name between quotes. -/
theorem variable_eq_option_iff_of_number :
    ofOptions [] [("ACCESSLOG_MAX_FILES", "1_0.0")] = ofOptions [("MAX_FILES", .str "1_0.0")] [] ∧
      ofOptions [] [("ACCESSLOG_FORMAT", "\"123\"")] =
        .ok { defaults with format := .named "123" } := by
  obtain ⟨same, chosen⟩ := variable_eq_option_iff
  constructor
  · exact (same (.positive "MAX_FILES" maxFiles) (by simp [Field.all]) _).mpr (Or.inl (by decide))
  · have quoted : formatVariable "123" = "\"123\"" := by decide +kernel
    rw [← quoted]
    exact chosen "123" (by decide)

/-- The format of a number is refused as a variable, and chosen as an option. -/
theorem number_refused_as_format_variable :
    (∀ items, Json.read? "123" ≠ some (.list items)) ∧
      (ofOptions [] [("ACCESSLOG_FORMAT", "123")]).isOk = false ∧
      ofOptions [("FORMAT", .str "123")] [] = .ok { defaults with format := .named "123" } := by
  have number : Json.read? "123" = some (.int 123) := by rfl
  refine ⟨fun items => ?_, by decide +kernel, by rfl⟩
  rw [number]
  nofun

end Settings
end RequestLog
