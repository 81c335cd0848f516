import RequestLog.Registry

/-!
# Compiling records

A format is compiled against an exchange by running the extractor of each token in order.  A failing
extractor leaves its field empty and a complaint behind; only a failure that is not ordinary ends
the compilation.  A single token can be evaluated outside any format, and then its failure is the
outcome.
-/

namespace RequestLog

/-- The fields of a record by name, in order. -/
abbrev Record := Catalog Value

/-- An extractor that failed while a record was compiled. -/
structure FieldFailure where
  /-- The text of the token. -/
  raw : String
  /-- What went wrong. -/
  failure : Failure

/-- The result of compiling a record. -/
structure Compilation (σ : Type) where
  /-- The record, or the failure that ended the compilation. -/
  outcome : Outcome Record
  /-- The ordinary failures on the way, in order. -/
  complaints : List FieldFailure
  /-- The state that the extractors leave behind. -/
  state : σ

namespace Registry

variable {σ : Type}

/-- The format of a name. -/
def resolve (registry : Registry σ) (name : String) : Outcome Format :=
  match registry.formats.find? name with
  | some format => .ok format
  | none => .error (.unknownFormat name)

/-- Compile the rest of a format into a record begun. -/
def compileTokens (registry : Registry σ) (view : Exchange.View) :
    List Token → Record → σ → Compilation σ
  | [], record, state => ⟨.ok record, [], state⟩
  | token :: rest, record, state =>
      match registry.lookup? token.key with
      | none => compileTokens registry view rest (record.put token.raw .null) state
      | some extractor =>
          match extractor.run view token.args state with
          | (.ok value, state) =>
              compileTokens registry view rest (record.put token.raw value) state
          | (.error failure, state) =>
              if failure.isOrdinary then
                let later := compileTokens registry view rest (record.put token.raw .null) state
                { later with complaints := ⟨token.raw, failure⟩ :: later.complaints }
              else
                ⟨.error failure, [], state⟩

/-- Compile a format against an exchange. -/
def compileFormat (registry : Registry σ) (format : Format) (view : Exchange.View) (state : σ) :
    Compilation σ :=
  registry.compileTokens view format.tokens [] state

/-- Compile the format of a name against an exchange. -/
def compile (registry : Registry σ) (name : String) (view : Exchange.View) (state : σ) :
    Compilation σ :=
  match registry.resolve name with
  | .ok format => registry.compileFormat format view state
  | .error failure => ⟨.error failure, [], state⟩

/-- Evaluate the text of a single token. -/
def evaluate (registry : Registry σ) (text : Value) (view : Exchange.View) (state : σ) :
    Outcome Value × σ :=
  match Token.ofValue text with
  | .error refusal => (.error (.refused refusal), state)
  | .ok token =>
      match registry.lookup? token.key with
      | none => (.error (.unknownExtractor token.key), state)
      | some extractor => extractor.run view token.args state

end Registry
end RequestLog
