import RequestLog.Fault
import RequestLog.Settings.Problem

/-!
# Failures

Everything that can end a step early, by its cause: a failure that a script raises, a fault, a
refused registration, a format or extractor that is not there, a configuration that cannot work, or
refused settings.
-/

namespace RequestLog

/-- What a name is registered for. -/
inductive Subject where
  /-- An extractor. -/
  | extractor
  /-- A format. -/
  | format
  deriving DecidableEq, Repr

/-- The word for what a name is registered for. -/
def Subject.word : Subject → String
  | extractor => "Simplifier"
  | format => "Format"

/-- Why a registration is refused. -/
inductive Refusal where
  /-- The name of an extractor or a format is not a text, or empty. -/
  | badName (subject : Subject)
  /-- What should be an extractor cannot be called. -/
  | notCallable
  /-- The tokens of a format are not a sequence of texts, or empty. -/
  | badTokens
  /-- The name is taken. -/
  | alreadyRegistered (subject : Subject) (name : String)
  /-- A text is no token. -/
  | malformedToken (text : String)
  /-- A format names extractors that are not registered. -/
  | missingExtractors (keys : List String)
  deriving DecidableEq, Repr

namespace Refusal

/-- The kind of a refusal. -/
def kind : Refusal → Kind
  | badName _ => .registration
  | notCallable => .registration
  | badTokens => .registration
  | alreadyRegistered .. => .alreadyRegistered
  | malformedToken _ => .malformedToken
  | missingExtractors _ => .missingExtractor

/-- The text of a refusal. -/
def text : Refusal → String
  | badName subject => subject.word ++ " name must be a non-empty string"
  | notCallable => "Simplifier must be callable"
  | badTokens => "Format tokens must be a non-empty sequence of strings"
  | alreadyRegistered subject name =>
      subject.word ++ " already registered with name " ++ Text.quoted name
  | malformedToken text => "Malformed token: " ++ Text.quoted text
  | missingExtractors keys => "Some simplifiers are missing: " ++ Value.joinTexts keys

end Refusal

/-- Why options give no working logger. -/
inductive Misconfiguration where
  /-- Whole settings and single options are given together. -/
  | settingsAndOptions
  /-- A list of tokens is no format. -/
  | invalidFormat (refusal : Refusal)
  /-- No format has the name; these are registered. -/
  | unknownFormat (name : String) (registered : List String)
  /-- The logger has handlers of other settings. -/
  | loggerTaken (name : String)
  deriving DecidableEq, Repr

/-- The text of a misconfiguration. -/
def Misconfiguration.text : Misconfiguration → String
  | settingsAndOptions => "Pass either settings or keyword options, not both"
  | invalidFormat refusal => "Invalid format: " ++ refusal.text
  | unknownFormat name registered =>
      "Unknown format " ++ Text.quoted name ++ "; registered: " ++ Value.joinTexts registered
  | loggerTaken name =>
      "Logger " ++ Text.quoted name ++ " is already configured with different handler settings"

/-- What ends a step early. -/
inductive Failure where
  /-- A failure raised on purpose; it may say something. -/
  | raised (kind : Kind) (message : Option Value)
  /-- A step that cannot be carried out. -/
  | fault (fault : Fault)
  /-- A refused registration. -/
  | refused (refusal : Refusal)
  /-- No format has the name. -/
  | unknownFormat (name : String)
  /-- No extractor has the key. -/
  | unknownExtractor (key : String)
  /-- Options that give no working logger. -/
  | misconfigured (reason : Misconfiguration)
  /-- Refused settings, with every complaint. -/
  | invalidSettings (complaints : List Settings.Complaint)
  deriving Repr

namespace Failure

instance : Coe Fault Failure := ⟨fault⟩

/-- A failure raised on purpose with a text. -/
def saying (kind : Kind) (text : String) : Failure :=
  raised kind (some (.str text))

/-- The kind of a failure. -/
def kind : Failure → Kind
  | raised kind _ => kind
  | fault cause => cause.kind
  | refused refusal => refusal.kind
  | unknownFormat _ => .unknownFormat
  | unknownExtractor _ => .unknownExtractor
  | misconfigured _ => .configuration
  | invalidSettings _ => .validation

/-- Ordinary failures stop at the guard around a step; the others pass it. -/
def isOrdinary (failure : Failure) : Bool :=
  failure.kind.isOrdinary

/-- The text of a failure.  A missing key is shown as it would be inside another value. -/
def text : Failure → String
  | raised _ none => ""
  | raised .missingKey (some key) => key.shown
  | raised _ (some message) => message.text
  | fault cause => cause.text
  | refused refusal => refusal.text
  | unknownFormat name => "No such format registered " ++ Text.quoted name
  | unknownExtractor key => "No such simplifier " ++ Text.quoted key
  | misconfigured reason => reason.text
  | invalidSettings complaints => toString complaints.length ++ " validation errors"

/-- The line that shows a failure in a log: the kind, and the text unless it is empty. -/
def logged (failure : Failure) : String :=
  if failure.text.isEmpty then failure.kind.loggedLabel
  else failure.kind.loggedLabel ++ ": " ++ failure.text

end Failure

/-- The outcome of a step that may fail. -/
abbrev Outcome (α : Type) := Except Failure α

end RequestLog
