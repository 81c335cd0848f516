import RequestLog.Proofs.Logging.JsonLine
import RequestLog.Proofs.Registry.Evaluation

/-!
# Fields against what a line says itself

The fields of the access record are set after time, level and message, in the same object.  A field
is never lost, but one that goes by the name of the time, the level or the message takes its place.
The names of fields are texts of tokens, so the three are safe where no extractor goes by their
names.
-/

namespace RequestLog

namespace Registry

variable {σ : Type} {registry : Registry σ}

/-- A field that goes by a bare name is there only if an extractor goes by the name. -/
theorem Sound.has_of_field (sound : registry.Sound) {name : String} {format : Format}
    (kept : (name, format) ∈ registry.formats) {view : Exchange.View} {state : σ} {record : Record}
    (compiled : (registry.compile name view state).outcome = .ok record) {bare : String}
    (plain : Token.parse? bare = some ⟨bare, bare, []⟩) (named : bare ∈ record.names) :
    registry.extractors.has bare = true := by
  rw [sound.names_of_compile kept compiled] at named
  obtain ⟨token, within, raw_eq⟩ := List.mem_map.mp named
  obtain ⟨⟨key, token⟩, stored, rfl⟩ := List.mem_map.mp within
  have keyed := sound.keyed _ kept
  have read : Token.parse? token.raw = some token := keyed.read _ stored
  rw [raw_eq, plain] at read
  have key_eq : token.key = key := keyed.key _ stored
  rw [← Option.some.inj read] at key_eq
  have there := sound.registered _ kept _ stored
  rw [← key_eq] at there
  exact there

end Registry

namespace Logging

variable {entry : Entry} {instant : Instant} {message : String} {record : Record}

theorem levelLabel_level (severity : Severity) : levelLabel severity.level = severity.label := by
  cases severity <;> rfl

theorem isPresent_of_ne_null {value : Value} (filled : value ≠ .null) : value.isPresent = true := by
  cases value with
  | null => exact absurd rfl filled
  | _ => rfl

theorem nodup_names_shown (distinct : record.names.Nodup) : record.shown.names.Nodup :=
  (List.filter_sublist.map Prod.fst).nodup distinct

theorem find?_shown_of_mem (distinct : record.names.Nodup) {field : String × Value}
    (present : field ∈ record) (filled : field.2 ≠ .null) :
    record.shown.find? field.1 = some field.2 :=
  Catalog.find?_of_mem (nodup_names_shown distinct)
    (List.mem_filter.mpr ⟨present, isPresent_of_ne_null filled⟩)

/-- What stands under a name stays there exactly if every field of the name is empty or says the
same. -/
theorem find?_shown_or_eq_iff (distinct : record.names.Nodup) (name : String) (own : Value) :
    (record.shown.find? name).or (some own) = some own ↔
      ∀ field ∈ record, field.1 = name → field.2 = .null ∨ field.2 = own := by
  constructor
  · rintro unharmed field present rfl
    by_cases empty : field.2 = .null
    · exact .inl empty
    · rw [find?_shown_of_mem distinct present empty] at unharmed
      exact .inr (Option.some.inj unharmed)
  · intro harmless
    cases set : record.shown.find? name with
    | none => rfl
    | some value =>
        obtain ⟨present, filled⟩ := List.mem_filter.mp (Catalog.mem_of_find? set)
        rcases harmless _ present rfl with empty | same
        · rw [empty] at filled
          cases filled
        · exact congrArg some same

theorem find?_tail {name : String} (other : name ≠ "traceback" ∨ entry.failure = none) :
    (Value.textFields entry.tail).find? name = none := by
  rw [Catalog.find?_eq_none_iff, Value.names_textFields, Entry.tail]
  cases failed : entry.failure with
  | none => exact List.not_mem_nil
  | some failure =>
      have differs : name ≠ "traceback" := other.resolve_right (by simp [failed])
      exact fun named => differs (List.mem_singleton.mp named)

/-- The names that every line of JSON holds are bare names of tokens. -/
theorem bare_of_own : ∀ name ∈ ["timestamp", "level", "message"],
    name ≠ "traceback" ∧ Token.parse? name = some ⟨name, name, []⟩ := by
  decide

theorem find?_own {own : String × String} (listed : own ∈ entry.own instant message) :
    (Value.textFields (entry.own instant message)).find? own.1 = some (.str own.2) := by
  have distinct : (Value.textFields (entry.own instant message)).names.Nodup := by
    rw [Value.names_textFields]
    change ["timestamp", "level", "message"].Nodup
    decide
  exact Catalog.find?_of_mem distinct (List.mem_map_of_mem listed)

/-- A name of the object is looked up to the failure, or else to the field of the record, or else to
what the line says itself. -/
theorem Entry.entry?_object (made : instantOf entry.created = .ok instant)
    (stated : entry.message = .ok message) (carries : entry.access = some (.ofFields record))
    (distinct : record.names.Nodup) :
    ∃ entries, entry.object = .ok entries ∧
      ∀ name, Value.entry? entries name =
        ((Value.textFields entry.tail).find? name).or ((record.shown.find? name).or
          ((Value.textFields (entry.own instant message)).find? name)) := by
  have tail_distinct : (Value.textFields entry.tail).names.Nodup := by
    rw [Entry.tail]
    cases entry.failure with
    | none => exact List.nodup_nil
    | some failure => exact List.nodup_singleton _
  refine ⟨_, Entry.object_of_record made stated carries, fun name => ?_⟩
  rw [Value.entry?_entriesOf, Catalog.find?_putAll tail_distinct,
    Catalog.find?_putAll (nodup_names_shown distinct)]

/-- No field that is not empty is lost from the object of a line.  What the line says itself is
there exactly if every field of that name is empty or says the same, and always if no extractor goes
by the name. -/
theorem own_fields_of_json_line {σ : Type} {users : UserReader} {plan : Registry.Plan}
    {fresh : Registry σ} (created : Registry.create users plan = .ok fresh)
    (history : List (Registration σ)) {name : String} {format : Format}
    (kept : (name, format) ∈ (fresh.after history).formats) {view : Exchange.View} {state : σ}
    (compiled : ((fresh.after history).compile name view state).outcome = .ok record)
    (carries : entry.access = some (.ofFields record)) {severity : Severity}
    (graded : entry.level = severity.level) (made : instantOf entry.created = .ok instant)
    (stated : entry.message = .ok message) :
    ∃ entries, entry.object = .ok entries ∧
      Layout.json.format entry = (Json.write (.dict entries)).map String.ofList ∧
      (∀ field ∈ record, field.2 ≠ .null → field.1 ≠ "traceback" ∨ entry.failure = none →
        Value.entry? entries field.1 = some field.2) ∧
      ∀ own ∈ [("timestamp", instant.offsetText), ("level", severity.label), ("message", message)],
        (Value.entry? entries own.1 = some (.str own.2) ↔
          ∀ field ∈ record, field.1 = own.1 → field.2 = .null ∨ field.2 = .str own.2) ∧
        ((fresh.after history).extractors.has own.1 = false →
          Value.entry? entries own.1 = some (.str own.2)) := by
  have sound := (Registry.Sound.create created).after history
  have names := sound.names_of_compile kept compiled
  have distinct : record.names.Nodup := by
    rw [names]
    exact (sound.keyed _ kept).nodup_raws
  obtain ⟨entries, object_eq, looked_up⟩ := Entry.entry?_object made stated carries distinct
  have own_eq : entry.own instant message =
      [("timestamp", instant.offsetText), ("level", severity.label), ("message", message)] := by
    rw [Entry.own, graded, levelLabel_level]
  refine ⟨entries, object_eq, ?_, ?_, fun own listed => ?_⟩
  · rw [Layout.format, Entry.jsonLine, object_eq]
    rfl
  · intro field present filled other
    rw [looked_up, find?_tail other, find?_shown_of_mem distinct present filled]
    rfl
  · rw [← own_eq] at listed
    have bare := bare_of_own own.1 (List.mem_map_of_mem listed)
    have found : Value.entry? entries own.1 =
        (record.shown.find? own.1).or (some (.str own.2)) := by
      rw [looked_up, find?_tail (.inl bare.1), find?_own listed]
      rfl
    have unharmed_iff := find?_shown_or_eq_iff distinct own.1 (.str own.2)
    rw [← found] at unharmed_iff
    -- A field of that name would be the text of a token, whose key is registered.
    refine ⟨unharmed_iff, fun unregistered => unharmed_iff.mpr fun field present same => ?_⟩
    have named : own.1 ∈ record.names := by
      rw [← same]
      exact List.mem_map_of_mem present
    rw [sound.has_of_field kept compiled bare.2 named] at unregistered
    cases unregistered

/-- An extractor that goes by the name of the time leaves the time alone under another spelling. -/
theorem own_fields_of_json_line_of_other_spelling :
    let count : Extractor Unit := .stateless "count" fun _ args => .ok (.int args.length)
    let fresh : Registry Unit := ⟨Extractor.builtins Credentials.userName, []⟩
    let registry := fresh.after [.extractor (.str "timestamp") (some count),
      .format (.str "own") (.list [.str "TIMESTAMP[a]"])]
    let view : Exchange.View :=
      ⟨⟨.empty, .null, .null, .null, .null, .null, .null, .null, none⟩, none, ⟨0⟩⟩
    ∃ record, (registry.compile "own" view ()).outcome = .ok record ∧
      ∃ entries, Entry.object ⟨"requests", 20, .str "request", .ofList [], some (.ofFields record),
          none, .int 0⟩ = .ok entries ∧
        Value.entry? entries "TIMESTAMP[a]" = some (.int 1) ∧
        Value.entry? entries "timestamp" = some (.str "1970-01-01T00:00:00.000+00:00") := by
  intro count fresh registry view
  have created : Registry.create Credentials.userName [] = .ok fresh := rfl
  let format : Format := [("timestamp", ⟨"TIMESTAMP[a]", "timestamp", ["a"]⟩)]
  have grown : registry = ⟨fresh.extractors ++ [("timestamp", count)], [("own", format)]⟩ := rfl
  have kept : ("own", format) ∈ registry.formats := by
    rw [grown]
    exact List.mem_cons_self
  let record : Record := [("TIMESTAMP[a]", .int 1)]
  have compiled : (registry.compile "own" view ()).outcome = .ok record := by
    rw [grown]
    rfl
  let entry : Entry :=
    ⟨"requests", 20, .str "request", .ofList [], some (.ofFields record), none, .int 0⟩
  have carries : entry.access = some (.ofFields record) := rfl
  have graded : entry.level = Severity.info.level := rfl
  have made : instantOf entry.created = .ok ⟨0⟩ := rfl
  have stated : entry.message = .ok "request" := rfl
  obtain ⟨entries, object_eq, -, fields_kept, own_kept⟩ :=
    own_fields_of_json_line created _ kept compiled carries graded made stated
  have field_kept := fields_kept _ List.mem_cons_self (by simp) (.inr rfl)
  have time_kept := (own_kept _ List.mem_cons_self).1.mpr (by simp [record])
  exact ⟨record, compiled, entries, object_eq, field_kept, time_kept⟩

/-- A field that goes by the name of the level takes its place. -/
theorem own_fields_of_json_line_of_level :
    let count : Extractor Unit := .stateless "count" fun _ args => .ok (.int args.length)
    let fresh : Registry Unit := ⟨Extractor.builtins Credentials.userName, []⟩
    let registry := fresh.after [.extractor (.str "level") (some count),
      .format (.str "own") (.list [.str "level"])]
    let view : Exchange.View :=
      ⟨⟨.empty, .null, .null, .null, .null, .null, .null, .null, none⟩, none, ⟨0⟩⟩
    let record : Record := [("level", .int 0)]
    Registry.create Credentials.userName [] = .ok fresh ∧
      (registry.compile "own" view ()).outcome = .ok record ∧
      ∃ entries, Entry.object ⟨"requests", Severity.info.level, .str "request", .ofList [],
          some (.ofFields record), none, .int 0⟩ = .ok entries ∧
        Value.entry? entries "level" = some (.int 0) ∧
        Value.entry? entries "level" ≠ some (.str Severity.info.label) := by
  intro count fresh registry view record
  have grown : registry = ⟨fresh.extractors ++ [("level", count)],
    [("own", [("level", ⟨"level", "level", []⟩)])]⟩ := rfl
  have compiled : (registry.compile "own" view ()).outcome = .ok record := by
    rw [grown]
    rfl
  refine ⟨rfl, compiled, _, rfl, rfl, fun unharmed => ?_⟩
  have overwritten : some (Value.int 0) = some (.str Severity.info.label) := unharmed
  cases overwritten

end Logging
end RequestLog
