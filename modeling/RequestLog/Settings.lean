import RequestLog.Catalog
import RequestLog.Failure
import RequestLog.Json.Reader
import RequestLog.Settings.Checked
import RequestLog.Settings.Reading
import RequestLog.Text.Lowercase
import RequestLog.Text.Uppercase

/-!
# Settings

Each setting has a name, a default and a way to be read.  Its value is that of the option given for
it, else that of its variable in the environment, else the default.  All settings are checked, and
either all are accepted or every complaint is reported: first about the settings in their order,
then about options that are no settings.
-/

namespace RequestLog

/-- Validated settings. -/
structure Settings where
  /-- Least severity of a record in the access file. -/
  accessLevel : Severity
  /-- Name of the access file. -/
  accessFile : String
  /-- Least severity of a record in the error file. -/
  errorLevel : Severity
  /-- Name of the error file. -/
  errorFile : String
  /-- Folder of the log files. -/
  folder : String
  /-- Size in octets that a log file stays below. -/
  maxFileSize : Int
  /-- How many full log files are kept. -/
  maxFiles : Int
  /-- Log files hold JSON. -/
  jsonLogs : Bool
  /-- Records go to the console too. -/
  console : Bool
  /-- Least severity of a record on the console. -/
  consoleLevel : Severity
  /-- The console shows severities in colour. -/
  consoleColor : Bool
  /-- The console shows JSON. -/
  consoleJson : Bool
  /-- Failures of the app are logged. -/
  handleExceptions : Bool
  /-- Proxies are trusted to report the address of the client. -/
  trustProxy : Bool
  /-- Name of the logger that records go to. -/
  loggerName : String
  /-- The fields of a record. -/
  format : Settings.FormatChoice
  deriving DecidableEq, Repr

namespace Settings

/-- The settings that nothing is given for. -/
def defaults : Settings :=
  { accessLevel := .info
    accessFile := "access.log"
    errorLevel := .error
    errorFile := "error.log"
    folder := "logs"
    maxFileSize := 5242880
    maxFiles := 5
    jsonLogs := true
    console := true
    consoleLevel := .debug
    consoleColor := true
    consoleJson := false
    handleExceptions := true
    trustProxy := false
    loggerName := "accesslog.access"
    format := .named "combined" }

/-- The settings as values by name, in their order. -/
def fields (settings : Settings) : Catalog Value :=
  [("ACCESS_LEVEL", .str settings.accessLevel.label),
    ("ACCESS_FILE_NAME", .str settings.accessFile),
    ("ERROR_LEVEL", .str settings.errorLevel.label),
    ("ERROR_FILE_NAME", .str settings.errorFile),
    ("LOG_FOLDER", .str settings.folder),
    ("MAX_FILE_SIZE", .int settings.maxFileSize),
    ("MAX_FILES", .int settings.maxFiles),
    ("JSON_LOGS", .bool settings.jsonLogs),
    ("CONSOLE", .bool settings.console),
    ("CONSOLE_LEVEL", .str settings.consoleLevel.label),
    ("CONSOLE_COLOR", .bool settings.consoleColor),
    ("CONSOLE_JSON", .bool settings.consoleJson),
    ("HANDLE_EXCEPTIONS", .bool settings.handleExceptions),
    ("TRUST_PROXY", .bool settings.trustProxy),
    ("LOGGER_NAME", .str settings.loggerName),
    ("FORMAT", settings.format.value)]

/-- The names of the settings, in their order. -/
def names : List String :=
  defaults.fields.names

/-- Everything that shapes the handlers of a logger. -/
structure HandlerKey where
  /-- Least severity in the access file. -/
  accessLevel : Severity
  /-- Name of the access file. -/
  accessFile : String
  /-- Least severity in the error file. -/
  errorLevel : Severity
  /-- Name of the error file. -/
  errorFile : String
  /-- Folder of the log files. -/
  folder : String
  /-- Size that a log file stays below. -/
  maxFileSize : Int
  /-- How many full log files are kept. -/
  maxFiles : Int
  /-- Log files hold JSON. -/
  jsonLogs : Bool
  /-- There is a console handler. -/
  console : Bool
  /-- Least severity on the console. -/
  consoleLevel : Severity
  /-- The console is coloured. -/
  consoleColor : Bool
  /-- The console shows JSON. -/
  consoleJson : Bool
  deriving DecidableEq, Repr

/-- The part of the settings that shapes handlers. -/
def handlerKey (settings : Settings) : HandlerKey :=
  { accessLevel := settings.accessLevel
    accessFile := settings.accessFile
    errorLevel := settings.errorLevel
    errorFile := settings.errorFile
    folder := settings.folder
    maxFileSize := settings.maxFileSize
    maxFiles := settings.maxFiles
    jsonLogs := settings.jsonLogs
    console := settings.console
    consoleLevel := settings.consoleLevel
    consoleColor := settings.consoleColor
    consoleJson := settings.consoleJson }

/-- The values in a handler key, in order. -/
def HandlerKey.values (key : HandlerKey) : List Value :=
  [.str key.accessLevel.label, .str key.accessFile, .str key.errorLevel.label, .str key.errorFile,
    .str key.folder, .int key.maxFileSize, .int key.maxFiles, .bool key.jsonLogs,
    .bool key.console, .str key.consoleLevel.label, .bool key.consoleColor, .bool key.consoleJson]

/-- The environment: texts of variables by name. -/
abbrev Environment := Catalog String

/-- The name of the variable of a setting, in lower case. -/
def variableName (name : String) : String :=
  Text.lowercase ("ACCESSLOG_" ++ name)

/-- The text of the variable of a setting.  The case of its name does not matter; of several
spellings the last one counts. -/
def Environment.text? (environment : Environment) (name : String) : Option String :=
  (environment.reverse.find? fun entry => Text.lowercase entry.1 == variableName name).map Prod.snd

/-- The value that a variable gives to a setting.  The format is read as JSON if it is JSON, and
then the absent value leaves it unset; every other variable is a text. -/
def Environment.value? (environment : Environment) (name : String) : Option Value :=
  match environment.text? name with
  | none => none
  | some text =>
      if name = "FORMAT" then
        match Json.read? text with
        | some .null => none
        | some value => some value
        | none => some (.str text)
      else some (.str text)

/-- What is given for settings: options by the name of the setting, and the environment. -/
structure Sources where
  /-- Options by name. -/
  options : Catalog Value
  /-- The environment. -/
  environment : Environment

/-- The value given for a setting: the option, else the variable. -/
def Sources.value? (sources : Sources) (name : String) : Option Value :=
  match sources.options.find? name with
  | some value => some value
  | none => sources.environment.value? name

/-- Check one setting with a way to read it; a setting that nothing is given for has its default. -/
def Sources.check {α : Type} (sources : Sources) (name : String) (fallback : α)
    (read : Value → Except (List Complaint) α) : Checked α :=
  match sources.value? name with
  | none => .accepted fallback
  | some value =>
      match read value with
      | .ok checked => .accepted checked
      | .error found =>
          .refused (found.map fun complaint =>
            { complaint with place := .name name :: complaint.place })

/-- A way to read a value that has one problem at most. -/
def whole {α : Type} (read : Value → Except Problem α) (value : Value) :
    Except (List Complaint) α :=
  match read value with
  | .ok checked => .ok checked
  | .error problem => .error [⟨[], problem⟩]

/-- Check every setting. -/
def Sources.checkAll (sources : Sources) : Checked Settings :=
  Settings.mk
    <$> sources.check "ACCESS_LEVEL" defaults.accessLevel (whole readSeverity)
    <*> sources.check "ACCESS_FILE_NAME" defaults.accessFile (whole readText)
    <*> sources.check "ERROR_LEVEL" defaults.errorLevel (whole readSeverity)
    <*> sources.check "ERROR_FILE_NAME" defaults.errorFile (whole readText)
    <*> sources.check "LOG_FOLDER" defaults.folder (whole readText)
    <*> sources.check "MAX_FILE_SIZE" defaults.maxFileSize (whole readPositive)
    <*> sources.check "MAX_FILES" defaults.maxFiles (whole readPositive)
    <*> sources.check "JSON_LOGS" defaults.jsonLogs (whole readBool)
    <*> sources.check "CONSOLE" defaults.console (whole readBool)
    <*> sources.check "CONSOLE_LEVEL" defaults.consoleLevel (whole readSeverity)
    <*> sources.check "CONSOLE_COLOR" defaults.consoleColor (whole readBool)
    <*> sources.check "CONSOLE_JSON" defaults.consoleJson (whole readBool)
    <*> sources.check "HANDLE_EXCEPTIONS" defaults.handleExceptions (whole readBool)
    <*> sources.check "TRUST_PROXY" defaults.trustProxy (whole readBool)
    <*> sources.check "LOGGER_NAME" defaults.loggerName (whole readText)
    <*> sources.check "FORMAT" defaults.format readFormat

/-- Complaints about options that are no settings. -/
def Sources.unknown (sources : Sources) : List Complaint :=
  (sources.options.names.filter fun name => !names.contains name).map fun name =>
    ⟨[.name name], .unknownName⟩

/-- The settings that the sources give. -/
def Sources.settings (sources : Sources) : Except (List Complaint) Settings :=
  (sources.checkAll.withComplaints sources.unknown).toExcept

/-- Options as they are given, in order; a name may occur several times. -/
abbrev Options := List (String × Value)

/-- Options by name as they are written; of several with one name the last one counts, in the place
of the first. -/
def Options.collected (options : Options) : Catalog Value :=
  options.foldl (fun built option => Catalog.put built option.1 option.2) []

/-- Options by name in upper case; of several spellings the last one counts. -/
def Options.uppercased (options : Options) : Catalog Value :=
  options.collected.foldl (fun built option =>
    Catalog.put built (Text.uppercase option.1) option.2) []

/-- The setting that a name stands for when case does not matter. -/
def nameLike? (name : String) : Option String :=
  names.find? fun known => Text.lowercase known == Text.lowercase name

/-- Options by the name of the setting that they are for.  The exact name counts before any other
spelling, and of several other spellings the first one counts; options for no setting keep their
names. -/
def Options.matched (options : Options) : Catalog Value :=
  let collected := options.collected
  collected.foldl (fun built option =>
    match nameLike? option.1 with
    | none => Catalog.put built option.1 option.2
    | some known =>
        if option.1 = known then Catalog.put built known option.2
        else if collected.has known ∨ Catalog.has built known then built
        else Catalog.put built known option.2) []

/-- The failure of refused settings. -/
def outcome (checked : Except (List Complaint) Settings) : Outcome Settings :=
  match checked with
  | .ok settings => .ok settings
  | .error complaints => .error (.invalidSettings complaints)

/-- The one name, as it is written, that no option can have. -/
def reservedName : String := "cls"

/-- The settings of options in any case, over an environment. -/
def ofOptions (options : Options) (environment : Environment) : Outcome Settings :=
  if options.any fun option => option.1 == reservedName then
    .error (Fault.reservedOption reservedName)
  else
    outcome (Sources.settings ⟨options.uppercased, environment⟩)

/-- The settings of options by exact name, over an environment. -/
def ofNamed (options : Options) (environment : Environment) : Outcome Settings :=
  outcome (Sources.settings ⟨options.matched, environment⟩)

end Settings
end RequestLog
