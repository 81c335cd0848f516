import RequestLog.Extractor
import RequestLog.Token

/-!
# The registry of extractors and formats

A registry holds extractors by key and formats by name, each in the order of registration.  It only
grows: a registration either adds one entry at the end or is refused.  A format is a sequence of
tokens, one for each key, all of whose keys are registered.
-/

namespace RequestLog

/-- Tokens by key, in order. -/
abbrev Format := Catalog Token

/-- Read the text of a token from a value. -/
def Token.ofValue (value : Value) : Except Refusal Token :=
  match value with
  | .str text =>
      match Token.parse? text with
      | some token => .ok token
      | none => .error (.malformedToken text)
  | other => .error (.malformedToken other.shown)

namespace Format

/-- Add the tokens that the texts write; of several tokens with one key the last one counts. -/
def addTexts (format : Format) : List String → Except Refusal Format
  | [] => .ok format
  | text :: rest =>
      match Token.parse? text with
      | none => .error (.malformedToken text)
      | some token => addTexts (Catalog.put format token.key token) rest

/-- The format that the texts of tokens write. -/
def ofTexts (texts : List String) : Except Refusal Format :=
  addTexts [] texts

/-- The tokens of a format, in order. -/
def tokens (format : Format) : List Token :=
  format.map Prod.snd

end Format

/-- The texts in a value that is a list of texts. -/
def Value.texts? (value : Value) : Option (List String) :=
  match value with
  | .list items => items.mapM asText?
  | .tuple items => items.mapM asText?
  | _ => none
where
  /-- The text that a value is. -/
  asText? : Value → Option String
    | .str text => some text
    | _ => none

/-- Extractors by key and formats by name. -/
structure Registry (σ : Type) where
  /-- Extractors by key in lower case. -/
  extractors : Catalog (Extractor σ)
  /-- Formats by name. -/
  formats : Catalog Format

namespace Registry

variable {σ : Type}

/-- The extractor of a key. -/
def lookup? (registry : Registry σ) (key : String) : Option (Extractor σ) :=
  registry.extractors.find? key

/-- A text that is not empty, hence can be a name. -/
def nameOf? (value : Value) : Option String :=
  match value with
  | .str text => if text.isEmpty then none else some text
  | _ => none

/-- Register an extractor under a name, in lower case.  A candidate that cannot be called is
refused. -/
def registerExtractor (registry : Registry σ) (name : Value) (candidate : Option (Extractor σ)) :
    Except Refusal (Registry σ) :=
  match nameOf? name, candidate with
  | none, _ => .error (.badName .extractor)
  | some _, none => .error .notCallable
  | some name, some extractor =>
      let key := Text.lowercase name
      if registry.extractors.has key then .error (.alreadyRegistered .extractor key)
      else .ok { registry with extractors := registry.extractors.put key extractor }

/-- The texts of a format: a list of texts that is not empty. -/
def tokenTexts? (tokens : Value) : Option (List String) :=
  match tokens.texts? with
  | some [] => none
  | found => found

/-- The keys of a format that no extractor is registered under. -/
def missingKeys (registry : Registry σ) (format : Format) : List String :=
  format.names.filter fun key => !registry.extractors.has key

/-- Register a format under a name. -/
def registerFormat (registry : Registry σ) (name tokens : Value) : Except Refusal (Registry σ) :=
  match nameOf? name, tokenTexts? tokens with
  | none, _ => .error (.badName .format)
  | some _, none => .error .badTokens
  | some name, some texts =>
      if registry.formats.has name then .error (.alreadyRegistered .format name)
      else
        match Format.ofTexts texts with
        | .error refusal => .error refusal
        | .ok format =>
            match registry.missingKeys format with
            | [] => .ok { registry with formats := registry.formats.put name format }
            | missing => .error (.missingExtractors missing)

/-- Formats to begin with: texts of tokens by name. -/
abbrev Plan := List (Value × Value)

/-- The built-in formats. -/
def builtinFormats : Catalog (List String) :=
  [("combined", ["remote-addr", "remote-user", "date[web]", "method", "url", "http-version",
      "status", "res[content-length]", "referrer", "user-agent"]),
    ("common", ["remote-addr", "remote-user", "date[web]", "method", "url", "http-version",
      "status", "res[content-length]"]),
    ("dev", ["method", "url", "status", "response-time", "res[content-length]"]),
    ("short", ["remote-addr", "remote-user", "method", "url", "http-version", "status",
      "res[content-length]", "response-time"]),
    ("tiny", ["method", "url", "status", "res[content-length]", "response-time"])]

/-- The built-in formats as values to register. -/
def builtinPlan : Plan :=
  builtinFormats.map fun entry => (.str entry.1, .list (entry.2.map .str))

/-- Register formats one after the other. -/
def registerAll (registry : Registry σ) : Plan → Except Refusal (Registry σ)
  | [] => .ok registry
  | (name, tokens) :: rest =>
      match registry.registerFormat name tokens with
      | .error refusal => .error refusal
      | .ok registry => registerAll registry rest

/-- A registry with the built-in extractors and the formats of a plan. -/
def create (users : UserReader) (plan : Plan) : Except Refusal (Registry σ) :=
  registerAll { extractors := Extractor.builtins users, formats := [] } plan

end Registry
end RequestLog
