import RequestLog.Proofs.Registry.Soundness

/-!
# The fields of a compiled record

Compiling draws the value of one token after the other.  `compileTokens_cons_cases` says what one
token can do: its field is set and compiling goes on, or a failure that is not ordinary ends it.  So
a record that is made has a field for each token, which no other token of a sound format overwrites.
-/

namespace RequestLog

/-- What a field shows of the value that was drawn for it: a failure leaves the field empty. -/
def Extractor.field (drawn : Outcome Value) : Value :=
  match drawn with
  | .ok value => value
  | .error _ => .null

/-- No two tokens of a format have one text. -/
theorem Format.Keyed.nodup_raws {format : Format} (keyed : format.Keyed) :
    (format.tokens.map Token.raw).Nodup := by
  rw [Format.tokens, List.map_map]
  refine List.Nodup.map_on ?_ (List.Nodup.of_map _ keyed.distinct)
  intro entry present other there same
  have tokens_eq : entry.2 = other.2 := by
    have read := keyed.read entry present
    rw [show entry.2.raw = other.2.raw from same, keyed.read other there] at read
    exact (Option.some.inj read).symm
  have keys_eq : entry.1 = other.1 := by
    rw [← keyed.key entry present, ← keyed.key other there, tokens_eq]
  exact Prod.ext keys_eq tokens_eq

namespace Registry

variable {σ : Type} (registry : Registry σ) (view : Exchange.View)

/-- Draw the value of a token; without an extractor there is none. -/
def draw (token : Token) (state : σ) : Outcome Value × σ :=
  match registry.lookup? token.key with
  | none => (.ok .null, state)
  | some extractor => extractor.run view token.args state

/-- Compiling one more token: its value, or the complaint about it, comes before the rest; a failure
that is not ordinary leaves out the rest. -/
theorem compileTokens_cons (token : Token) (rest : List Token) (record : Record) (state : σ) :
    registry.compileTokens view (token :: rest) record state =
      match registry.draw view token state with
      | (.ok value, later) =>
          registry.compileTokens view rest (record.put token.raw value) later
      | (.error failure, later) =>
          if failure.isOrdinary then
            let compiled := registry.compileTokens view rest (record.put token.raw .null) later
            { compiled with complaints := ⟨token.raw, failure⟩ :: compiled.complaints }
          else ⟨.error failure, [], later⟩ := by
  rw [compileTokens, draw]
  cases registry.lookup? token.key with
  | none => rfl
  | some extractor => rfl

/-- A token sets its field and compiling goes on, or a failure that is not ordinary ends it. -/
theorem compileTokens_cons_cases (token : Token) (rest : List Token) (record : Record) (state : σ) :
    let drawn := registry.draw view token state
    (registry.compileTokens view (token :: rest) record state).outcome =
        (registry.compileTokens view rest (record.put token.raw (Extractor.field drawn.1))
          drawn.2).outcome ∨
      ∃ failure, drawn.1 = .error failure ∧ failure.isOrdinary = false ∧
        (registry.compileTokens view (token :: rest) record state).outcome = .error failure := by
  rw [compileTokens_cons]
  obtain ⟨outcome, later⟩ := registry.draw view token state
  cases outcome with
  | ok value => exact Or.inl rfl
  | error failure =>
      cases ordinary : failure.isOrdinary with
      | true => exact Or.inl (by simp only [ordinary, ↓reduceIte, Extractor.field])
      | false => exact Or.inr ⟨failure, rfl, ordinary, by simp [ordinary]⟩

variable {registry view}

/-- The fields of other texts stay as they are. -/
theorem find?_compileTokens_of_not_mem {tokens : List Token} {record made : Record} {state : σ}
    (compiled : (registry.compileTokens view tokens record state).outcome = .ok made)
    {name : String} (absent : name ∉ tokens.map Token.raw) :
    made.find? name = record.find? name := by
  induction tokens generalizing record state with
  | nil => rw [← Except.ok.inj compiled]
  | cons token rest ih =>
      rw [List.map_cons, List.mem_cons, not_or] at absent
      rcases registry.compileTokens_cons_cases view token rest record state with
        goes | ⟨failure, -, -, ends⟩
      · rw [goes] at compiled
        rw [ih compiled absent.2, Catalog.find?_put, if_neg (Ne.symm absent.1)]
      · rw [ends] at compiled
        cases compiled

/-- Each field was there before or shows what was drawn for a token. -/
theorem mem_of_compileTokens {tokens : List Token} {record made : Record} {state : σ}
    (compiled : (registry.compileTokens view tokens record state).outcome = .ok made)
    {field : String × Value} (present : field ∈ made) :
    field ∈ record ∨ ∃ token ∈ tokens, ∃ before,
      field = (token.raw, Extractor.field (registry.draw view token before).1) := by
  induction tokens generalizing record state with
  | nil => exact Or.inl (Except.ok.inj compiled ▸ present)
  | cons token rest ih =>
      rcases registry.compileTokens_cons_cases view token rest record state with
        goes | ⟨failure, -, -, ends⟩
      · rw [goes] at compiled
        rcases ih compiled with before | ⟨later, within, drawn⟩
        · rcases Catalog.mem_put before with set | kept
          · exact Or.inr ⟨token, List.mem_cons_self, state, set⟩
          · exact Or.inl kept
        · exact Or.inr ⟨later, List.mem_cons_of_mem _ within, drawn⟩
      · rw [ends] at compiled
        cases compiled

/-- If what is drawn for a token does not depend on the state, its field shows it. -/
theorem find?_compileTokens {tokens : List Token} {record made : Record} {state : σ}
    (compiled : (registry.compileTokens view tokens record state).outcome = .ok made)
    (distinct : (tokens.map Token.raw).Nodup) {token : Token} (present : token ∈ tokens)
    {drawn : Outcome Value} (stateless : ∀ state, (registry.draw view token state).1 = drawn) :
    made.find? token.raw = some (Extractor.field drawn) := by
  induction tokens generalizing record state with
  | nil => cases present
  | cons first rest ih =>
      rw [List.map_cons, List.nodup_cons] at distinct
      rcases registry.compileTokens_cons_cases view first rest record state with
        goes | ⟨failure, -, -, ends⟩
      · rw [goes] at compiled
        rcases List.mem_cons.mp present with rfl | later
        · rw [find?_compileTokens_of_not_mem compiled distinct.1, Catalog.find?_put, if_pos rfl,
            stateless]
        · exact ih compiled distinct.2 later
      · rw [ends] at compiled
        cases compiled

/-- The name of a stored format is compiled as the format is. -/
theorem Sound.compile_eq_compileFormat (sound : registry.Sound) {stored : String × Format}
    (kept : stored ∈ registry.formats) (view : Exchange.View) (state : σ) :
    registry.compile stored.1 view state = registry.compileFormat stored.2 view state := by
  rw [compile, resolve, Catalog.find?_of_mem sound.distinct kept]

end Registry
end RequestLog
