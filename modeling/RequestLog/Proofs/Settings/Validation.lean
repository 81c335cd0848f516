import RequestLog.Proofs.Logging.Leftovers
import RequestLog.Proofs.Settings.Fields
import RequestLog.Proofs.Settings.Options

/-!
# All complaints, or settings that can be used

Options and variables either give settings, and then logging can rely on them, or they are refused,
and then every field with a value that is refused is complained about, and every option for no
setting.  The complaints about a field do not depend on the other fields.
-/

namespace RequestLog
namespace Settings

/-! ## What logging relies on -/

/-- Every severity is found by its label, the bounds of the files are positive, and there is a
format. -/
structure IsUsable (settings : Settings) : Prop where
  severities : ∀ severity ∈ [settings.accessLevel, settings.errorLevel, settings.consoleLevel],
    Severity.ofLabel? severity.label = some severity
  maxFileSize_pos : 0 < settings.maxFileSize
  maxFiles_pos : 0 < settings.maxFiles
  format_ne : settings.format ≠ .named "" ∧ settings.format ≠ .listed []

theorem ofLabel?_label (severity : Severity) :
    Severity.ofLabel? severity.label = some severity := by
  cases severity <;> decide

theorem pos_of_readPositive {value : Value} {number : Int}
    (read : whole readPositive value = .ok number) : 0 < number := by
  unfold whole readPositive at read
  cases given : readInteger value with
  | error problem => simp [given] at read
  | ok n =>
      by_cases bad : n ≤ 0
      · simp [given, bad] at read
      · simp only [given, if_neg bad, Except.ok.injEq] at read
        omega

theorem itemTexts_ne_nil {items : List Value} (all_texts : itemComplaints 0 items = [])
    (nonempty : items ≠ []) : itemTexts items ≠ [] := by
  cases items with
  | nil => exact absurd rfl nonempty
  | cons item rest =>
      rw [itemComplaints] at all_texts
      cases read : readText item with
      | ok text => simp [itemTexts, read, Except.toOption]
      | error problem => simp [read] at all_texts

theorem ne_empty_of_readTokens {items : List Value} {choice : FormatChoice}
    (read : readTokens items = .ok choice) : choice ≠ .named "" ∧ choice ≠ .listed [] := by
  rw [readTokens] at read
  split at read
  · next all_texts =>
      split at read
      · cases read
      · next nonempty =>
          rw [List.isEmpty_iff] at nonempty
          rw [← Except.ok.inj read]
          constructor
          · simp
          · intro none_listed
            exact itemTexts_ne_nil all_texts nonempty (FormatChoice.listed.inj none_listed)
  · cases read

theorem ne_empty_of_readFormat {value : Value} {choice : FormatChoice}
    (read : readFormat value = .ok choice) : choice ≠ .named "" ∧ choice ≠ .listed [] := by
  unfold readFormat at read
  split at read
  · exact ne_empty_of_readTokens read
  · exact ne_empty_of_readTokens read
  · split at read
    · split at read
      · cases read
      · next text _ nonempty =>
          rw [← Except.ok.inj read]
          constructor
          · intro unnamed
            apply nonempty
            rw [FormatChoice.named.inj unnamed]
            rfl
          · simp
    · cases read

theorem pos_of_accepted {sources : Sources} {name : String} {content : Settings → Int}
    {number : Int} (accepted : sources.checkField (.positive name content) = .accepted number)
    (of_default : 0 < content defaults) : 0 < number :=
  Sources.holds_of_accepted (fun number : Int => 0 < number) accepted of_default
    fun _ _ read => pos_of_readPositive read

/-- Settings that are accepted can be used. -/
theorem isUsable_of_settings {sources : Sources} {settings : Settings}
    (accepted : sources.settings = .ok settings) : IsUsable settings := by
  have checked := ((sources.settings_eq_ok_iff settings).mp accepted).1
  have size := checked (.positive "MAX_FILE_SIZE" maxFileSize) (by simp [Field.all])
  have files := checked (.positive "MAX_FILES" maxFiles) (by simp [Field.all])
  have format := checked .format (by simp [Field.all])
  constructor
  · exact fun severity _ => ofLabel?_label severity
  · exact pos_of_accepted size (by decide)
  · exact pos_of_accepted files (by decide)
  · apply Sources.holds_of_accepted
      (fun choice : FormatChoice => choice ≠ .named "" ∧ choice ≠ .listed []) format
    · change defaults.format ≠ .named "" ∧ defaults.format ≠ .listed []
      decide
    · exact fun _ _ read => ne_empty_of_readFormat read

/-! ## Complaints -/

/-- The options for no setting, by their names in upper case. -/
def foreignNames (options : Options) : List String :=
  (options.collected.names.map Text.uppercase).eraseDups.filter fun name => !names.contains name

theorem unknown_uppercased (options : Options) (environment : Environment) :
    Sources.unknown ⟨options.uppercased, environment⟩ =
      (foreignNames options).map fun name => ⟨[.name name], .unknownName⟩ := by
  rw [Sources.unknown, Options.names_uppercased, foreignNames]

theorem nodup_foreignNames (options : Options) : (foreignNames options).Nodup := by
  rw [foreignNames, ← Options.names_uppercased, Options.uppercased_eq]
  have distinct : (Catalog.names ([] : Catalog Value)).Nodup := List.nodup_nil
  exact (Catalog.nodup_names_putAll distinct _).filter _

theorem mem_foreignNames_iff {options : Options} {name : String} :
    name ∈ foreignNames options ↔
      name ∉ names ∧ ∃ option ∈ options, Text.uppercase option.1 = name := by
  simp only [foreignNames, Options.collected_eq, Catalog.names_putAll, List.mem_filter,
    List.mem_eraseDups, List.mem_map, List.removeAll]
  simp [Catalog.names, and_comm]

/-- What is wrong with a value is wrong with it as the only option. -/
theorem ofOptions_only_of_complaints {sources : Sources} {field : Field}
    (listed : field ∈ Field.all) {value : Value} (given : sources.value? field.name = some value)
    (found : sources.complaintsAbout field ≠ []) :
    ofOptions [(field.name, value)] [] =
      .error (.invalidSettings (sources.complaintsAbout field)) := by
  have same : (Sources.only field value).complaintsAbout field = sources.complaintsAbout field := by
    have same_check : (Sources.only field value).checkField field = sources.checkField field := by
      apply Sources.checkField_congr
      rw [Sources.value?_only, given]
    rw [Sources.complaintsAbout, same_check, Sources.complaintsAbout]
  have refused : (Sources.only field value).settings = .error (sources.complaintsAbout field) := by
    rw [Sources.settings_eq_error_iff, Sources.complaints_only listed, same]
    exact ⟨rfl, found⟩
  rw [ofOptions_only listed, refused, outcome]

/-- Options and variables give settings that logging can rely on, whose configuration can fail for a
name that is taken or a file that cannot be opened only, if there is nothing to complain about.
Otherwise they are refused with all complaints: those about the fields, in their order, and then one
for every name in upper case that is an option for no setting.  A field is complained about exactly
if its value is refused, and with what the value as the only option would be refused for. -/
theorem ofOptions_validates {options : Options}
    (unreserved : ∀ option ∈ options, option.1 ≠ reservedName) (environment : Environment) :
    let sources : Sources := ⟨options.uppercased, environment⟩
    let found := Field.all.flatMap sources.complaintsAbout ++
      (foreignNames options).map fun name => ⟨[.name name], .unknownName⟩
    ((∃ settings, ofOptions options environment = .ok settings ∧ found = [] ∧ IsUsable settings ∧
        ∀ (system later : Logging.System) failure,
          system.configure settings = (later, .error failure) →
            (system.configured.find? settings.loggerName).isSome ∨
              Logging.Opening.Fails system.output.disk settings) ∨
      (ofOptions options environment = .error (.invalidSettings found) ∧ found ≠ [])) ∧
    (∀ field ∈ Field.all,
      (sources.complaintsAbout field ≠ [] ↔
        ∃ value refused, sources.value? field.name = some value ∧
          field.read value = .error refused) ∧
      (∀ complaint ∈ sources.complaintsAbout field,
        complaint.place.head? = some (.name field.name)) ∧
      ∀ value, sources.value? field.name = some value → sources.complaintsAbout field ≠ [] →
        ofOptions [(field.name, value)] [] =
          .error (.invalidSettings (sources.complaintsAbout field))) ∧
    (foreignNames options).Nodup ∧
    ∀ name, name ∈ foreignNames options ↔
      name ∉ names ∧ ∃ option ∈ options, Text.uppercase option.1 = name := by
  intro sources found
  have all_found : sources.complaints = found := by
    rw [Sources.complaints, unknown_uppercased]
  refine ⟨?_, fun field listed => ⟨?_, ?_, ?_⟩, nodup_foreignNames options,
    fun name => mem_foreignNames_iff⟩
  · rw [ofOptions_of_unreserved unreserved]
    cases given : sources.settings with
    | ok settings =>
        have silent : found = [] := by
          by_contra vocal
          have refused := (sources.settings_eq_error_iff found).mpr ⟨all_found.symm, vocal⟩
          rw [given] at refused
          cases refused
        refine Or.inl ⟨settings, rfl, silent, isUsable_of_settings given, ?_⟩
        intro system later failure failed
        rcases Logging.System.configure_eq_error failed with ⟨taken, -⟩ | ⟨-, fails, -⟩
        · exact Or.inl taken
        · exact Or.inr fails
    | error complaints =>
        obtain ⟨rfl, vocal⟩ := (sources.settings_eq_error_iff complaints).mp given
        rw [all_found] at vocal ⊢
        exact Or.inr ⟨rfl, vocal⟩
  · exact Sources.complaintsAbout_ne_nil_iff listed
  · exact fun complaint within => Sources.head?_place_of_mem_complaintsAbout within
  · exact fun value given => ofOptions_only_of_complaints listed given

/-- An option, a variable and a name in two spellings are complained about, in this order. -/
theorem ofOptions_validates_of_spellings :
    let options : Options := [("colour", .str "red"), ("max_files", .int 0), ("Colour", .int 1)]
    let environment : Environment := [("ACCESSLOG_CONSOLE", "maybe")]
    (∀ option ∈ options, option.1 ≠ reservedName) ∧
      ofOptions options environment = .error (.invalidSettings
        [⟨[.name "MAX_FILES"], .notPositive⟩, ⟨[.name "CONSOLE"], .unreadableBoolean⟩,
          ⟨[.name "COLOUR"], .unknownName⟩]) := by
  intro options environment
  have unreserved : ∀ option ∈ options, option.1 ≠ reservedName := by decide
  have about_fields : Field.all.flatMap
      (Sources.complaintsAbout ⟨options.uppercased, environment⟩) =
      [⟨[.name "MAX_FILES"], .notPositive⟩, ⟨[.name "CONSOLE"], .unreadableBoolean⟩] := by
    decide +kernel
  have foreign : foreignNames options = ["COLOUR"] := by decide +kernel
  have outcomes := (ofOptions_validates unreserved environment).1
  simp only [about_fields, foreign] at outcomes
  rcases outcomes with ⟨_, -, silent, -⟩ | ⟨refused, -⟩
  · cases silent
  · exact ⟨unreserved, refused⟩

/-- Two options for no setting may share a complaint. -/
theorem foreign_options_share_complaint :
    let options : Options := [("colour", .str "red"), ("Colour", .int 1)]
    (Catalog.names options).Nodup ∧
      options.countP (fun option => !names.contains (Text.uppercase option.1)) = 2 ∧
      ∃ found, ofOptions options [] = .error (.invalidSettings found) ∧
        found.countP (fun complaint => complaint.problem == .unknownName) = 1 := by
  intro options
  refine ⟨by decide, by decide +kernel, [⟨[.name "COLOUR"], .unknownName⟩], by rfl, by decide⟩

end Settings
end RequestLog
