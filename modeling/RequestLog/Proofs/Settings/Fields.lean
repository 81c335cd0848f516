import Mathlib.Data.List.Nodup
import RequestLog.Proofs.Entries
import RequestLog.Settings

/-!
# Settings field by field

The sixteen settings are fields of one kind: a name, a content, and a way to read the content.
Checking all settings is checking each field by itself.  They are accepted exactly if every field
is, with the contents of the fields (`checkAll_eq_accepted_iff`), and the complaints are those of
the fields, in their order (`complaints_checkAll`).
-/

namespace RequestLog
namespace Settings

/-- One field of the settings. -/
structure Field where
  /-- The type of the content. -/
  Content : Type
  /-- The name of the setting. -/
  name : String
  /-- The content in settings. -/
  content : Settings → Content
  /-- The content as a value. -/
  shown : Content → Value
  /-- The content that a value stands for. -/
  read : Value → Except (List Complaint) Content

namespace Field

/-- A field that holds a severity. -/
def severity (name : String) (content : Settings → Severity) : Field :=
  ⟨Severity, name, content, fun severity => .str severity.label, whole readSeverity⟩

/-- A field that holds a text. -/
def text (name : String) (content : Settings → String) : Field :=
  ⟨String, name, content, .str, whole readText⟩

/-- A field that holds a positive integer. -/
def positive (name : String) (content : Settings → Int) : Field :=
  ⟨Int, name, content, .int, whole readPositive⟩

/-- A field that holds a truth value. -/
def truth (name : String) (content : Settings → Bool) : Field :=
  ⟨Bool, name, content, .bool, whole readBool⟩

/-- The field that holds the format. -/
def format : Field :=
  ⟨FormatChoice, "FORMAT", Settings.format, FormatChoice.value, readFormat⟩

/-- The fields, in their order. -/
def all : List Field :=
  [severity "ACCESS_LEVEL" accessLevel, text "ACCESS_FILE_NAME" accessFile,
    severity "ERROR_LEVEL" errorLevel, text "ERROR_FILE_NAME" errorFile, text "LOG_FOLDER" folder,
    positive "MAX_FILE_SIZE" maxFileSize, positive "MAX_FILES" maxFiles, truth "JSON_LOGS" jsonLogs,
    truth "CONSOLE" console, severity "CONSOLE_LEVEL" consoleLevel,
    truth "CONSOLE_COLOR" consoleColor, truth "CONSOLE_JSON" consoleJson,
    truth "HANDLE_EXCEPTIONS" handleExceptions, truth "TRUST_PROXY" trustProxy,
    text "LOGGER_NAME" loggerName, format]

/-- Settings hold nothing but what their fields hold. -/
theorem fields_eq (settings : Settings) :
    settings.fields = all.map fun field => (field.name, field.shown (field.content settings)) := rfl

theorem names_eq : names = all.map name := rfl

theorem nodup_names : (all.map name).Nodup := by decide

theorem name_mem_names {field : Field} (listed : field ∈ all) : field.name ∈ names := by
  rw [names_eq]
  exact List.mem_map_of_mem listed

theorem eq_of_name_eq {field other : Field} (listed : field ∈ all) (other_listed : other ∈ all)
    (same : field.name = other.name) : field = other :=
  List.inj_on_of_nodup_map nodup_names listed other_listed same

theorem uppercase_name {field : Field} (listed : field ∈ all) :
    Text.uppercase field.name = field.name := by
  have fixed : ∀ name ∈ names, Text.uppercase name = name := by decide +kernel
  exact fixed _ (name_mem_names listed)

theorem name_ne_reservedName {field : Field} (listed : field ∈ all) :
    field.name ≠ reservedName := by
  have differs : reservedName ∉ names := by decide
  exact fun same => differs (same ▸ name_mem_names listed)

/-- A value that is refused is complained about. -/
def Complains (field : Field) : Prop :=
  ∀ value, field.read value ≠ .error []

theorem whole_ne_error_nil {α : Type} (read : Value → Except Problem α) (value : Value) :
    whole read value ≠ .error [] := by
  rw [whole]
  split <;> simp

theorem readTokens_ne_error_nil (items : List Value) : readTokens items ≠ .error [] := by
  rw [readTokens]
  split
  · split <;> simp
  · simp [formatComplaints]

theorem complains_format : format.Complains := by
  intro value
  change readFormat value ≠ .error []
  unfold readFormat
  split
  · exact readTokens_ne_error_nil _
  · exact readTokens_ne_error_nil _
  · split
    · split <;> simp
    · simp [formatComplaints]

theorem complains_of_mem {field : Field} (listed : field ∈ all) : field.Complains := by
  revert field
  simp only [all, List.forall_mem_cons, severity, text, positive, truth]
  simp only [Complains, whole_ne_error_nil, ne_eq, not_false_eq_true, implies_true, true_and]
  exact ⟨complains_format, by simp⟩

end Field

namespace Checked

variable {α β : Type}

theorem combine_eq_accepted_iff {function : Checked (α → β)} {argument : Checked α} {value : β} :
    combine function argument = accepted value ↔
      ∃ f content, function = accepted f ∧ argument = accepted content ∧ f content = value := by
  cases function <;> cases argument <;> simp [combine]

/-- A combination that refuses says why if its parts do. -/
theorem combine_ne_refused_nil {function : Checked (α → β)} {argument : Checked α}
    (first : function ≠ refused []) (second : argument ≠ refused []) :
    combine function argument ≠ refused [] := by
  intro silent
  have none_left := complaints_combine function argument
  rw [silent, complaints, eq_comm, List.append_eq_nil_iff] at none_left
  cases function with
  | refused found => exact first (congrArg refused none_left.1)
  | accepted f =>
      cases argument with
      | refused found => exact second (congrArg refused none_left.2)
      | accepted value => cases silent

end Checked

/-- A complaint about a part of what a name stands for. -/
def Complaint.within (name : String) (complaint : Complaint) : Complaint :=
  { complaint with place := .name name :: complaint.place }

namespace Sources

/-- Check one field. -/
def checkField (sources : Sources) (field : Field) : Checked field.Content :=
  sources.check field.name (field.content defaults) field.read

/-- The complaints about one field. -/
def complaintsAbout (sources : Sources) (field : Field) : List Complaint :=
  (sources.checkField field).complaints

variable {sources : Sources} {field : Field} {value : Value}

theorem checkField_congr {other : Sources}
    (same : sources.value? field.name = other.value? field.name) :
    sources.checkField field = other.checkField field := by
  rw [checkField, checkField, check, check, same]

theorem checkField_of_none (absent : sources.value? field.name = none) :
    sources.checkField field = .accepted (field.content defaults) := by
  rw [checkField, check, absent]

theorem checkField_of_ok (given : sources.value? field.name = some value) {content : field.Content}
    (read : field.read value = .ok content) : sources.checkField field = .accepted content := by
  rw [checkField, check, given]
  simp only [read]

theorem checkField_of_error (given : sources.value? field.name = some value)
    {found : List Complaint} (read : field.read value = .error found) :
    sources.checkField field = .refused (found.map (Complaint.within field.name)) := by
  rw [checkField, check, given]
  simp only [read]
  rfl

theorem checkField_ne_refused_nil (sources : Sources) (listed : field ∈ Field.all) :
    sources.checkField field ≠ .refused [] := by
  cases given : sources.value? field.name with
  | none => simp [checkField_of_none given]
  | some value =>
      cases read : field.read value with
      | ok content => simp [checkField_of_ok given read]
      | error found =>
          have complains : found ≠ [] := fun none_found =>
            Field.complains_of_mem listed value (none_found ▸ read)
          simpa [checkField_of_error given read] using complains

theorem complaints_checkAll (sources : Sources) :
    sources.checkAll.complaints = Field.all.flatMap sources.complaintsAbout := by
  simp only [checkAll, Functor.map, Seq.seq, Checked.complaints_combine]
  simp [Field.all, complaintsAbout, checkField]
  rfl

theorem checkAll_eq_accepted_iff (sources : Sources) (settings : Settings) :
    sources.checkAll = .accepted settings ↔
      ∀ field ∈ Field.all, sources.checkField field = .accepted (field.content settings) := by
  simp only [Field.all, List.forall_mem_cons, List.not_mem_nil, false_implies, implies_true,
    and_true]
  simp only [Field.severity, Field.text, Field.positive, Field.truth, Field.format, checkField]
  simp only [checkAll, Functor.map, Seq.seq, Checked.combine_eq_accepted_iff]
  cases settings
  simp only [Checked.accepted.injEq, ↓existsAndEq, and_true, true_and, Settings.mk.injEq, and_assoc]

theorem checkAll_ne_refused_nil (sources : Sources) : sources.checkAll ≠ .refused [] := by
  have each (field : Field) (listed : field ∈ Field.all) :
      sources.checkField field ≠ .refused [] := sources.checkField_ne_refused_nil listed
  simp only [Field.all, List.forall_mem_cons, List.not_mem_nil, false_implies, implies_true,
    and_true] at each
  obtain ⟨_, _, _, _, _, _, _, _, _, _, _, _, _, _, _, _⟩ := each
  simp only [checkAll, Functor.map, Seq.seq]
  repeat' apply Checked.combine_ne_refused_nil
  · nofun
  all_goals assumption

/-- All complaints: those about the fields, in their order, then those about options that are
none. -/
def complaints (sources : Sources) : List Complaint :=
  Field.all.flatMap sources.complaintsAbout ++ sources.unknown

/-- Settings are accepted exactly if every field is and there is no other option. -/
theorem settings_eq_ok_iff (sources : Sources) (settings : Settings) :
    sources.settings = .ok settings ↔
      (∀ field ∈ Field.all, sources.checkField field = .accepted (field.content settings)) ∧
        sources.unknown = [] := by
  rw [← checkAll_eq_accepted_iff, Sources.settings]
  cases sources.checkAll <;> cases sources.unknown <;>
    simp [Checked.withComplaints, Checked.toExcept]

/-- Settings are refused exactly if there are complaints, and with all of them. -/
theorem settings_eq_error_iff (sources : Sources) (found : List Complaint) :
    sources.settings = .error found ↔ found = sources.complaints ∧ found ≠ [] := by
  have vocal := sources.checkAll_ne_refused_nil
  rw [complaints, ← complaints_checkAll, Sources.settings]
  cases checked : sources.checkAll with
  | accepted settings =>
      cases sources.unknown with
      | nil => simp [Checked.withComplaints, Checked.toExcept, Checked.complaints]
      | cons complaint rest =>
          simp only [Checked.withComplaints, Checked.toExcept, Checked.complaints, List.nil_append,
            Except.error.injEq]
          constructor
          · rintro rfl
            exact ⟨rfl, List.cons_ne_nil _ _⟩
          · exact fun same => same.1.symm
  | refused first =>
      rw [checked] at vocal
      have some_first : first ≠ [] := fun none_first => vocal (congrArg _ none_first)
      simp only [Checked.withComplaints, Checked.toExcept, Checked.complaints, Except.error.injEq]
      constructor
      · rintro rfl
        exact ⟨rfl, List.append_ne_nil_of_left_ne_nil some_first _⟩
      · exact fun same => same.1.symm

theorem complaintsAbout_of_none (absent : sources.value? field.name = none) :
    sources.complaintsAbout field = [] := by
  rw [complaintsAbout, checkField_of_none absent, Checked.complaints]

/-- A field is complained about exactly if its value is refused. -/
theorem complaintsAbout_ne_nil_iff (listed : field ∈ Field.all) :
    sources.complaintsAbout field ≠ [] ↔
      ∃ value found, sources.value? field.name = some value ∧ field.read value = .error found := by
  cases given : sources.value? field.name with
  | none => simp [complaintsAbout_of_none given]
  | some value =>
      cases read : field.read value with
      | ok content => simp [complaintsAbout, checkField_of_ok given read, Checked.complaints, read]
      | error found =>
          have complains : found ≠ [] := fun none_found =>
            Field.complains_of_mem listed value (none_found ▸ read)
          simp [complaintsAbout, checkField_of_error given read, Checked.complaints, read,
            complains]

/-- Every complaint about a field names it. -/
theorem head?_place_of_mem_complaintsAbout {complaint : Complaint}
    (within : complaint ∈ sources.complaintsAbout field) :
    complaint.place.head? = some (.name field.name) := by
  cases given : sources.value? field.name with
  | none => simp [complaintsAbout_of_none given] at within
  | some value =>
      cases read : field.read value with
      | ok content =>
          simp [complaintsAbout, checkField_of_ok given read, Checked.complaints] at within
      | error found =>
          rw [complaintsAbout, checkField_of_error given read, Checked.complaints] at within
          obtain ⟨inner, -, rfl⟩ := List.mem_map.mp within
          rfl

/-- What comes of sources depends on the values of the settings and the complaints about other
options. -/
theorem settings_congr {other : Sources} (same_unknown : sources.unknown = other.unknown)
    (same_values : ∀ field ∈ Field.all, sources.value? field.name = other.value? field.name) :
    sources.settings = other.settings := by
  have same_checks (field : Field) (listed : field ∈ Field.all) :
      sources.checkField field = other.checkField field :=
    checkField_congr (same_values field listed)
  have same_complaints : sources.complaints = other.complaints := by
    have about_fields : Field.all.flatMap sources.complaintsAbout =
        Field.all.flatMap other.complaintsAbout := by
      apply List.flatMap_congr
      intro field listed
      rw [complaintsAbout, complaintsAbout, same_checks field listed]
    rw [complaints, complaints, same_unknown, about_fields]
  cases given : sources.settings with
  | error found =>
      rw [settings_eq_error_iff, same_complaints, ← settings_eq_error_iff] at given
      exact given.symm
  | ok settings =>
      rw [settings_eq_ok_iff, same_unknown] at given
      symm
      rw [settings_eq_ok_iff]
      refine ⟨fun field listed => ?_, given.2⟩
      rw [← same_checks field listed]
      exact given.1 field listed

/-! ### A single field -/

/-- Sources with an option for one field and nothing else. -/
def only (field : Field) (value : Value) : Sources :=
  ⟨[(field.name, value)], []⟩

theorem value?_only (field : Field) (value : Value) :
    (only field value).value? field.name = some value := by
  simp [only, value?, Catalog.find?]

theorem value?_only_of_ne {name : String} (differs : field.name ≠ name) :
    (only field value).value? name = none := by
  simp [only, value?, Catalog.find?, differs, Environment.value?, Environment.text?]

theorem unknown_only (listed : field ∈ Field.all) : (only field value).unknown = [] := by
  simp [only, unknown, Catalog.names, Field.name_mem_names listed]

/-- If nothing is given for the other fields then there are no complaints about them. -/
theorem flatMap_complaintsAbout_of_none (listed : field ∈ Field.all)
    (absent : ∀ other ∈ Field.all, field.name ≠ other.name → sources.value? other.name = none) :
    Field.all.flatMap sources.complaintsAbout = sources.complaintsAbout field := by
  obtain ⟨before, behind, split⟩ := List.append_of_mem listed
  have distinct := Field.nodup_names
  rw [split, List.map_append, List.map_cons, List.nodup_middle, List.nodup_cons,
    ← List.map_append] at distinct
  have silent (other : Field) (within : other ∈ before ++ behind) :
      sources.complaintsAbout other = [] := by
    apply complaintsAbout_of_none
    apply absent other
    · rw [split]
      exact ((List.sublist_cons_self field behind).append_left before).subset within
    · intro same
      exact distinct.1 (same ▸ List.mem_map_of_mem within)
  have none_before : before.flatMap sources.complaintsAbout = [] :=
    List.flatMap_eq_nil_iff.mpr fun other within => silent other (List.mem_append_left _ within)
  have none_behind : behind.flatMap sources.complaintsAbout = [] :=
    List.flatMap_eq_nil_iff.mpr fun other within => silent other (List.mem_append_right _ within)
  rw [split, List.flatMap_append, List.flatMap_cons, none_before, none_behind, List.nil_append,
    List.append_nil]

theorem complaints_only (listed : field ∈ Field.all) (value : Value) :
    (only field value).complaints = (only field value).complaintsAbout field := by
  rw [complaints, unknown_only listed, List.append_nil]
  exact flatMap_complaintsAbout_of_none listed fun _ _ differs => value?_only_of_ne differs

/-! ### Accepted fields -/

variable {content : field.Content}

/-- A field that is accepted has its default if nothing is given for it. -/
theorem content_of_none (accepted : sources.checkField field = .accepted content)
    (absent : sources.value? field.name = none) : content = field.content defaults := by
  rw [checkField_of_none absent] at accepted
  exact (Checked.accepted.inj accepted).symm

/-- A field that is accepted has the content that its value stands for. -/
theorem read_of_some (accepted : sources.checkField field = .accepted content)
    (given : sources.value? field.name = some value) : field.read value = .ok content := by
  cases read : field.read value with
  | ok other =>
      rw [checkField_of_ok given read] at accepted
      rw [Checked.accepted.inj accepted]
  | error found =>
      rw [checkField_of_error given read] at accepted
      cases accepted

/-- What holds of the default and of all that is read holds of an accepted field. -/
theorem holds_of_accepted (holds : field.Content → Prop)
    (accepted : sources.checkField field = .accepted content)
    (of_default : holds (field.content defaults))
    (of_read : ∀ value read, field.read value = .ok read → holds read) : holds content := by
  cases given : sources.value? field.name with
  | none =>
      rw [content_of_none accepted given]
      exact of_default
  | some value => exact of_read value content (read_of_some accepted given)

end Sources

/-! ## Settings of options -/

theorem ofOptions_of_unreserved {options : Options}
    (unreserved : ∀ option ∈ options, option.1 ≠ reservedName) (environment : Environment) :
    ofOptions options environment =
      outcome (Sources.settings ⟨options.uppercased, environment⟩) := by
  rw [ofOptions, if_neg]
  rw [List.any_eq_true]
  rintro ⟨option, within, reserved⟩
  exact unreserved option within (beq_iff_eq.mp reserved)

/-- The settings of one option. -/
theorem ofOptions_only {field : Field} (listed : field ∈ Field.all) (value : Value) :
    ofOptions [(field.name, value)] [] = outcome (Sources.only field value).settings := by
  have unreserved : ∀ option ∈ [(field.name, value)], option.1 ≠ reservedName := by
    intro option within
    rw [List.mem_singleton.mp within]
    exact Field.name_ne_reservedName listed
  have upper : Options.uppercased [(field.name, value)] =
      [(Text.uppercase field.name, value)] := rfl
  rw [ofOptions_of_unreserved unreserved, upper, Field.uppercase_name listed, Sources.only]

theorem settings_of_ofOptions {options : Options} {environment : Environment} {settings : Settings}
    (accepted : ofOptions options environment = .ok settings) :
    Sources.settings ⟨options.uppercased, environment⟩ = .ok settings := by
  rw [ofOptions] at accepted
  split at accepted
  · cases accepted
  · unfold outcome at accepted
    split at accepted
    · next given => rw [given, Except.ok.inj accepted]
    · cases accepted

end Settings
end RequestLog
