import RequestLog.Compilation
import RequestLog.Logging.Layout
import RequestLog.Proofs.Json.RoundTrip
import RequestLog.Proofs.Logging.CreationTime

/-!
# Lines of JSON

The object of a line begins with time, level and message; the fields of the access record that are
not empty are set after them, and the failure comes last.  A field whose name is new comes behind
what is there, and an object of texts can be read back from its line as it was.
-/

namespace RequestLog

/-- The value is not the absent one. -/
def Value.isPresent : Value → Bool
  | null => false
  | _ => true

/-- The fields of a record that are not empty. -/
def Record.shown (record : Record) : Record :=
  record.filter fun field => field.2.isPresent

namespace Logging

variable {entry : Entry} {instant : Instant} {message : String}

/-- What a line of JSON says itself: time, level and message. -/
def Entry.own (entry : Entry) (instant : Instant) (message : String) : Catalog String :=
  [("timestamp", instant.offsetText), ("level", levelLabel entry.level), ("message", message)]

theorem setFields_eq (entries added : List (Value × Value)) :
    Entry.setFields entries added =
      (added.filter fun field => field.2.isPresent).foldl
        (fun built field => Value.setEntry built field.1 field.2) entries := by
  induction added generalizing entries with
  | nil => rfl
  | cons field rest ih =>
      obtain ⟨key, value⟩ := field
      cases value <;> exact ih _

theorem setFields_entriesOf (fields : Catalog Value) (record : Record) :
    Entry.setFields (Value.entriesOf fields) (Value.entriesOf record) =
      Value.entriesOf (fields.putAll record.shown) := by
  have kept : (Value.entriesOf record).filter (fun field => field.2.isPresent) =
      Value.entriesOf record.shown := by
    rw [Value.entriesOf, List.filter_map]
    rfl
  rw [setFields_eq, kept, Value.foldl_setEntry]

/-- What a line of JSON says last: the failure, if there is one. -/
def Entry.tail (entry : Entry) : Catalog String :=
  match entry.failure with
  | none => []
  | some failure => [("traceback", failure.logged)]

/-- The object of a line is what the line says itself, with the fields that are not empty set in it,
and then the failure. -/
theorem Entry.object_of_record (made : instantOf entry.created = .ok instant)
    (stated : entry.message = .ok message) {record : Record}
    (carries : entry.access = some (.ofFields record)) :
    entry.object = .ok (Value.entriesOf
      (((Value.textFields (entry.own instant message)).putAll record.shown).putAll
        (Value.textFields entry.tail))) := by
  have fields_eq := Entry.fields_of_access carries
  have opening_eq : entry.opening instant message =
      Value.entriesOf (Value.textFields (entry.own instant message)) := rfl
  simp only [Entry.object, made, stated, fields_eq, opening_eq, setFields_entriesOf, bind,
    Except.bind, Entry.tail]
  cases entry.failure with
  | none => rfl
  | some failure => exact congrArg Except.ok (Value.setEntry_entriesOf _ _ _)

/-- The record of fields that are texts or empty. -/
def recordOfTexts (fields : Catalog (Option String)) : Record :=
  fields.map fun field => (field.1, Extractor.textOrNull field.2)

/-- The texts of the fields that are not empty. -/
def textsGiven (fields : Catalog (Option String)) : Catalog String :=
  fields.filterMap fun field => field.2.map (Prod.mk field.1)

theorem shown_recordOfTexts (fields : Catalog (Option String)) :
    (recordOfTexts fields).shown = Value.textFields (textsGiven fields) := by
  induction fields with
  | nil => rfl
  | cons field rest ih =>
      obtain ⟨name, text⟩ := field
      cases text with
      | none => exact ih
      | some text => exact congrArg (List.cons (name, Value.str text)) ih

theorem names_textsGiven (fields : Catalog (Option String)) :
    (textsGiven fields).names.Sublist fields.names := by
  induction fields with
  | nil => exact List.Sublist.refl _
  | cons field rest ih =>
      obtain ⟨name, text⟩ := field
      cases text with
      | none => exact ih.cons name
      | some text => exact ih.cons_cons name

/-- Fields that do not go by a name of the line itself make no name of the line occur twice. -/
theorem nodup_names_of_disjoint {fields : Catalog String} (distinct : fields.names.Nodup)
    (apart : ∀ name ∈ ["timestamp", "level", "message", "traceback"], name ∉ fields.names) :
    (entry.own instant message ++ fields ++ entry.tail).names.Nodup := by
  have own_names : (entry.own instant message).names = ["timestamp", "level", "message"] := rfl
  have tail_names : entry.tail.names = [] ∨ entry.tail.names = ["traceback"] := by
    rw [Entry.tail]
    cases entry.failure with
    | none => exact .inl rfl
    | some failure => exact .inr rfl
  rw [Catalog.names_append, Catalog.names_append, own_names]
  have front : (["timestamp", "level", "message"] ++ fields.names).Nodup := by
    refine List.Nodup.append (by decide) distinct ?_
    intro name own named
    exact apart name (List.mem_append_left ["traceback"] own) named
  refine List.Nodup.append front ?_ ?_
  · rcases tail_names with names | names <;> rw [names] <;> decide
  · intro name before last
    have is_last : name = "traceback" := by
      rcases tail_names with names | names <;> rw [names] at last
      · cases last
      · exact List.mem_singleton.mp last
    subst is_last
    rcases List.mem_append.mp before with own | named
    · exact absurd own (by decide)
    · exact apart _ (by decide) named

/-- An entry with fields that are texts or empty is one line of plain JSON, from which time, level
and message, the texts in their order and the failure are read back. -/
theorem json_line_read_back {fields : Catalog (Option String)}
    (carries : entry.access = some (.ofFields (recordOfTexts fields)))
    (distinct : fields.names.Nodup)
    (apart : ∀ name ∈ ["timestamp", "level", "message", "traceback"], name ∉ fields.names)
    (comes : ComesTo entry.created instant.micros)
    (years : 1 ≤ instant.date.year ∧ instant.date.year ≤ 9999)
    (stated : entry.message = .ok message) :
    ∃ line, Layout.json.format entry = .ok line ∧ Text.IsPlain line ∧
      Json.read? line = some (.ofFields (Value.textFields
        ([("timestamp", instant.offsetText), ("level", levelLabel entry.level),
          ("message", message)] ++ textsGiven fields ++
          match entry.failure with
          | none => []
          | some failure => [("traceback", failure.logged)]))) := by
  have given_names := names_textsGiven fields
  have all_distinct : (entry.own instant message ++ textsGiven fields ++ entry.tail).names.Nodup :=
    nodup_names_of_disjoint (given_names.nodup distinct) fun name own given =>
      apart name own (given_names.subset given)
  have front_distinct : (entry.own instant message ++ textsGiven fields).names.Nodup := by
    rw [Catalog.names_append] at all_distinct
    exact all_distinct.of_append_left
  have object_eq : entry.object = .ok (Value.entriesOf (Value.textFields
      (entry.own instant message ++ textsGiven fields ++ entry.tail))) := by
    rw [Entry.object_of_record (instantOf_of_comesTo comes years) stated carries,
      shown_recordOfTexts,
      Value.putAll_textFields front_distinct, Value.putAll_textFields all_distinct]
  obtain ⟨line, written, plain, read⟩ := Json.read?_write_texts all_distinct
  refine ⟨String.ofList line, ?_, plain, read⟩
  rw [Layout.format, Entry.jsonLine, object_eq]
  exact congrArg (Except.bind · fun line => .ok (String.ofList line)) written

/-- Quotes, line breaks and characters beyond the basic plane are read back as they were. -/
theorem json_line_read_back_of_awkward_texts :
    let fields : Catalog (Option String) :=
      [("url", some "/a\"b\\c\n"), ("remote-user", none), ("user-agent", some "\x7fé\u2028😀")]
    let entry : Entry := ⟨"requests", 30, .str "request", .ofList [],
      some (.ofFields (recordOfTexts fields)), some (.saying .runtime "no\ndisk"), .int 1700000000⟩
    ∃ line, Layout.json.format entry = .ok line ∧ Text.IsPlain line ∧
      Json.read? line = some (.ofFields (Value.textFields
        [("timestamp", "2023-11-14T22:13:20.000+00:00"), ("level", "warn"), ("message", "request"),
          ("url", "/a\"b\\c\n"), ("user-agent", "\x7fé\u2028😀"),
          ("traceback", "RuntimeError: no\ndisk")])) := by
  intro fields entry
  let instant : Instant := ⟨1700000000 * 1000000⟩
  have carries : entry.access = some (.ofFields (recordOfTexts fields)) := rfl
  have comes : ComesTo entry.created instant.micros := .seconds 1700000000
  have stated : entry.message = .ok "request" := rfl
  have time_eq : instant.offsetText = "2023-11-14T22:13:20.000+00:00" := by decide
  obtain ⟨line, laid_out, plain, read⟩ :=
    json_line_read_back carries (by decide) (by decide) comes (by decide) stated
  rw [time_eq] at read
  exact ⟨line, laid_out, plain, read⟩

end Logging
end RequestLog
