import Mathlib.Data.List.Find
import RequestLog.Proofs.Settings.Fields
import RequestLog.Proofs.Settings.Options

/-!
# Options before variables before defaults

The value of a setting comes from the last option for it, or else from its variable, or else it is
the default; each setting is resolved by itself.  So only the variables of those settings count that
no option is given for, and the environment may hold anything else.
-/

namespace RequestLog
namespace Settings

/-! ## Variables that count -/

/-- The variable is that of a setting which no option is given for. -/
def counts (options : Options) (entry : String × String) : Bool :=
  names.any fun name =>
    (options.lastFor? name).isNone && Text.lowercase entry.1 == variableName name

theorem Environment.text?_filter (environment : Environment) {name : String}
    {keep : String × String → Bool}
    (kept : ∀ entry, Text.lowercase entry.1 = variableName name → keep entry = true) :
    Environment.text? (environment.filter keep) name = environment.text? name := by
  rw [text?, ← List.filter_reverse, List.find?_filter, text?]
  congr 1
  apply List.find?_congr
  intro entry _
  by_cases named : Text.lowercase entry.1 = variableName name
  · simp [named, kept entry named]
  · simp [named]

theorem Environment.value?_congr {environment other : Environment} {name : String}
    (same : environment.text? name = other.text? name) :
    environment.value? name = other.value? name := by
  rw [value?, value?, same]

/-- Only the variables that count make a difference. -/
theorem ofOptions_congr {options : Options} {environment other : Environment}
    (same : environment.filter (counts options.collected) =
      other.filter (counts options.collected)) :
    ofOptions options environment = ofOptions options other := by
  have same_settings : Sources.settings ⟨options.uppercased, environment⟩ =
      Sources.settings ⟨options.uppercased, other⟩ := by
    apply Sources.settings_congr
    · rfl
    · intro field listed
      simp only [Sources.value?, Options.find?_uppercased]
      cases given : Options.lastFor? options.collected field.name with
      | some value => rfl
      | none =>
          have kept (entry : String × String)
              (named : Text.lowercase entry.1 = variableName field.name) :
              counts options.collected entry = true := by
            rw [counts, List.any_eq_true]
            exact ⟨field.name, Field.name_mem_names listed, by simp [given, named]⟩
          apply Environment.value?_congr
          rw [← environment.text?_filter kept, same, other.text?_filter kept]
  rw [ofOptions, ofOptions, same_settings]

/-! ## Where a value comes from -/

/-- Settings come from options, then from variables, then from defaults, each by itself.  Options
are collected by name, which changes nothing if no name occurs twice.  In settings that are
accepted, a field is what the last option for it stands for; failing that, what the text of its
variable stands for, where the text for the format is read as JSON if it is JSON and leaves the
format unset if it is null; failing that, it is the default.  Whatever comes of it, an environment
that differs in variables of other names, or of settings that options are given for, makes no
difference. -/
theorem settings_by_precedence (options : Options) (environment : Environment) :
    let collected := options.collected
    ((Catalog.names options).Nodup → collected = options) ∧
    (∀ settings, ofOptions options environment = .ok settings → ∀ field ∈ Field.all,
      match Options.lastFor? collected field.name, environment.text? field.name with
      | some value, _ => field.read value = .ok (field.content settings)
      | none, some text =>
          if field.name = "FORMAT" then
            match Json.read? text with
            | none => field.read (.str text) = .ok (field.content settings)
            | some .null => field.content settings = field.content defaults
            | some value => field.read value = .ok (field.content settings)
          else field.read (.str text) = .ok (field.content settings)
      | none, none => field.content settings = field.content defaults) ∧
    ∀ other : Environment,
      environment.filter (counts collected) = other.filter (counts collected) →
        ofOptions options environment = ofOptions options other := by
  refine ⟨Options.collected_of_nodup, fun settings accepted field listed => ?_,
    fun other same => ofOptions_congr same⟩
  have accepted_field :=
    (Sources.settings_eq_ok_iff _ _).mp (settings_of_ofOptions accepted) |>.1 field listed
  have from_value {value : Value} (given : _ = some value) :=
    Sources.read_of_some accepted_field given
  have from_default := Sources.content_of_none accepted_field
  simp only [Sources.value?, Options.find?_uppercased, Environment.value?]
    at from_value from_default
  split
  · next value _ given => exact from_value (by rw [given])
  · next text absent given =>
      simp only [absent, given] at from_value from_default
      split
      · next named =>
          simp only [named] at from_value from_default
          split
          · next unread => exact from_value (by simp [unread])
          · next null => exact from_default (by simp [null])
          · next value read => exact from_value (by simp [read])
      · next named =>
          exact from_value (by simp [named])
  · next absent none_given => exact from_default (by simp [absent, none_given])

/-- The last spelling of an option counts, and hides the variable; that there is such a variable, or
one of no setting, or one with a value that is none, makes no difference. -/
theorem settings_by_precedence_of_hidden_variables :
    let options : Options :=
      [("format", .str ""), ("console", .int 0), ("FORMAT", .list [.str "method"])]
    let environment : Environment :=
      [("ACCESSLOG_FORMAT", "7"), ("accesslog_max_files", " +07 "), ("ACCESSLOG_CONSOLE", "maybe"),
        ("ACCESSLOG_COLOUR", "red")]
    ∃ settings, ofOptions options environment = .ok settings ∧
      settings.format = .listed ["method"] ∧ settings.console = false ∧ settings.maxFiles = 7 ∧
      settings.accessFile = "access.log" ∧
      ofOptions options [("accesslog_max_files", " +07 ")] = .ok settings := by
  intro options environment
  obtain ⟨settings, accepted⟩ : ∃ settings, ofOptions options environment = .ok settings := by
    have accepted : (ofOptions options environment).isOk = true := by decide +kernel
    cases given : ofOptions options environment with
    | ok settings => exact ⟨settings, rfl⟩
    | error failure =>
        rw [given] at accepted
        cases accepted
  obtain ⟨-, values, elsewhere⟩ := settings_by_precedence options environment
  have value_of := values settings accepted
  refine ⟨settings, accepted, ?_, ?_, ?_, ?_, ?_⟩
  · have read := value_of Field.format (by simp [Field.all])
    exact (Except.ok.inj read).symm
  · have read := value_of (Field.truth "CONSOLE" console) (by simp [Field.all])
    exact (Except.ok.inj read).symm
  · have read := value_of (Field.positive "MAX_FILES" maxFiles) (by simp [Field.all])
    exact (Except.ok.inj read).symm
  · exact value_of (Field.text "ACCESS_FILE_NAME" accessFile) (by simp [Field.all])
  · rw [← accepted]
    exact (elsewhere _ (by decide +kernel)).symm

end Settings
end RequestLog
