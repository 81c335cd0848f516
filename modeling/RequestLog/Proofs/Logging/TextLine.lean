import RequestLog.Logging.Layout
import RequestLog.Proofs.Entries
import RequestLog.Proofs.Exchange.OneLine
import RequestLog.Proofs.Registry.Builtins
import RequestLog.Proofs.Registry.Evaluation
import RequestLog.Proofs.Token.Grammar

/-!
# Line breaks in text logs

A line of text is put together from a level, names of fields and shown values, with plain text
between them, and nothing is escaped.  So its line breaks are those of the names and the values.  A
name is the text of a token and never holds a line feed; a value comes out of the exchange, and a
request can put a line feed there, for example in the name of a user.
-/

namespace RequestLog

open Text

/-- What a token with the key of a built-in extractor draws out of an exchange of one-line texts is
one line. -/
theorem Registry.isOneLine_draw {σ : Type} {users : UserReader} {plan : Plan} {fresh : Registry σ}
    (created : create users plan = .ok fresh) (history : List (Registration σ)) {token : Token}
    (builtin : token.key ∈ Extractor.builtinKeys) {view : Exchange.View}
    (one_line : view.IsOneLine users) (state : σ) :
    ((fresh.after history).draw view token state).1.IsOneLine := by
  obtain ⟨extractor, there, found⟩ := exists_builtin created history builtin
  simp only [draw, found]
  exact Extractor.isOneLine_of_mem_builtins one_line there token.args state

namespace Logging

theorem lineBreaks_levelText (inColor : Bool) (level : Int) :
    lineBreaks (levelText inColor level) = 0 := by
  unfold levelText
  split
  · next severity found =>
      cases severity <;> cases inColor <;> decide
  · exact lineBreaks_of_isPlain (isPlain_levelLabel level)

theorem lineBreaks_fieldText (field : Value × Value) :
    lineBreaks (fieldText field) = lineBreaks field.1.text + lineBreaks field.2.text := by
  obtain ⟨name, value⟩ := field
  have equals : lineBreaks "=" = 0 := by decide
  have empty : lineBreaks "-" = lineBreaks Value.null.text := by decide
  cases value <;> simp only [fieldText, lineBreaks_append, equals, empty, Nat.add_zero]

/-- The line breaks of a line of text are those of its names and values. -/
theorem Entry.exists_textLine {entry : Entry} (some_field : entry.fields ≠ [])
    (no_failure : entry.failure = none) (inColor : Bool) :
    ∃ line, entry.textLine inColor = .ok line ∧
      lineBreaks line =
        (entry.fields.map fun field => lineBreaks field.1.text + lineBreaks field.2.text).sum := by
  cases fields : entry.fields with
  | nil => exact absurd fields some_field
  | cons first rest =>
      let body := String.intercalate " " ((first :: rest).map fieldText)
      refine ⟨levelText inColor entry.level ++ ": " ++ body, ?_, ?_⟩
      · simp only [textLine, fields, no_failure]
        rfl
      · have colon : lineBreaks ": " = 0 := by decide
        have of_body : lineBreaks body = _ := lineBreaks_intercalate (by decide) _
        rw [lineBreaks_append, lineBreaks_append, lineBreaks_levelText, colon, of_body,
          List.map_map, Nat.zero_add]
        exact congrArg List.sum (List.map_congr_left fun field _ => lineBreaks_fieldText field)

/-- A record of built-in extractors is logged on as many lines as its values have.  The line breaks
of a text line are those of the names of its fields, which are the texts of the tokens and hold no
line feed, and of the values, as they come out of the exchange.  There are none if the texts of the
tokens and of the exchange have none; dates and times have none anyway. -/
theorem line_breaks_of_record {σ : Type} {users : UserReader} {plan : Registry.Plan}
    {fresh : Registry σ} (created : Registry.create users plan = .ok fresh)
    (history : List (Registration σ)) (tame : ∀ request, (users request).IsTame) {name : String}
    {format : Format} (kept : (name, format) ∈ (fresh.after history).formats)
    (builtin : format.IsBuiltin) (view : Exchange.View) (state : σ) :
    ∃ record, ((fresh.after history).compile name view state).outcome = .ok record ∧
      record.names = format.tokens.map Token.raw ∧
      (∀ token ∈ format.tokens, '\n' ∉ token.raw.toList) ∧
      ∀ entry : Entry, entry.access = some (.ofFields record) → entry.failure = none →
        ∀ inColor, ∃ line, (Layout.text inColor).format entry = .ok line ∧
          lineBreaks line =
            (record.map fun field => lineBreaks field.1 + lineBreaks field.2.text).sum ∧
          ((∀ token ∈ format.tokens, lineBreaks token.raw = 0) → view.IsOneLine users →
            lineBreaks line = 0) := by
  let registry := fresh.after history
  have sound : registry.Sound := (Registry.Sound.create created).after history
  have reads := (sound.keyed _ kept).read
  obtain ⟨record, compiled⟩ :=
    Registry.exists_record_of_isBuiltin created history tame kept builtin view state
  have names := sound.names_of_compile kept compiled
  have fields_drawn : ∀ field ∈ record, ∃ token ∈ format.tokens, ∃ before,
      field = (token.raw, Extractor.field (registry.draw view token before).1) := by
    intro field present
    rw [sound.compile_eq_compileFormat kept] at compiled
    exact (Registry.mem_of_compileTokens compiled present).resolve_left (by simp)
  refine ⟨record, compiled, names, ?_, fun entry carries no_failure inColor => ?_⟩
  · intro token within
    obtain ⟨stored, listed, rfl⟩ := List.mem_map.mp within
    exact Token.newline_not_mem_of_parse? (reads stored listed)
  · have fields_eq := Entry.fields_of_access carries
    have some_field : entry.fields ≠ [] := by
      intro none_there
      rw [fields_eq, Value.entriesOf, List.map_eq_nil_iff] at none_there
      rw [none_there] at names
      exact sound.nonempty _ kept (List.map_eq_nil_iff.mp (List.map_eq_nil_iff.mp names.symm))
    obtain ⟨line, laid_out, breaks⟩ := entry.exists_textLine some_field no_failure inColor
    rw [fields_eq, Value.entriesOf, List.map_map] at breaks
    refine ⟨line, laid_out, breaks, fun tokens_clean view_clean => ?_⟩
    rw [breaks, List.sum_eq_zero_iff_forall_eq_nat]
    intro count counted
    obtain ⟨field, present, rfl⟩ := List.mem_map.mp counted
    obtain ⟨token, within, before, rfl⟩ := fields_drawn field present
    have raw_clean := tokens_clean token within
    have drawn_clean := Registry.isOneLine_draw created history
      (builtin token within) view_clean before
    change lineBreaks token.raw + _ = 0
    rw [raw_clean, drawn_clean.field]

/-- A request with basic credentials, as they are encoded. -/
def viewOfUser (encoded : String) : Exchange.View where
  request :=
    { headers := .ofPairs [("authorization".toList.map fun c => .ofNat c.toNat,
        ("Basic " ++ encoded).toList.map fun c => .ofNat c.toNat)]
      method := .str "GET"
      url := .str "/"
      httpVersion := .str "1.1"
      peerAddress := .null
      reportedAddress := .null
      remoteAddress := .null
      startSeconds := .null
      startInstant := none }
  response := none
  now := ⟨0⟩

/-- A user called `u` is logged on one line, with the date and the header. -/
theorem line_breaks_of_record_of_plain_user :
    let registry : Registry Unit := ⟨Extractor.builtins Credentials.userName,
      [("who", [("remote-user", ⟨"remote-user", "remote-user", []⟩), ("date", ⟨"Date", "date", []⟩),
        ("req", ⟨"req[authorization]", "req", ["authorization"]⟩)])]⟩
    let view := viewOfUser "dTpw"
    Registry.create Credentials.userName
        [(.str "who", .list [.str "remote-user", .str "Date", .str "req[authorization]"])] =
      .ok registry ∧
    ∃ record line, (registry.compile "who" view ()).outcome = .ok record ∧
      (Layout.text true).format ⟨"requests", 20, .str "request", .ofList [],
        some (.ofFields record), none, .int 0⟩ = .ok line ∧ lineBreaks line = 0 := by
  intro registry view
  have created : Registry.create Credentials.userName
      [(.str "who", .list [.str "remote-user", .str "Date", .str "req[authorization]"])] =
    .ok registry := rfl
  have one_line : view.IsOneLine Credentials.userName := by
    refine ⟨by decide, by decide, by decide, by decide, fun name found => ?_, ?_,
      fun _ there => ?_, fun _ there => ?_⟩
    · have named : Credentials.userName view.request = .ok (some (.str "u")) := rfl
      rw [named] at found
      cases found
      decide
    · rintro text ⟨entry, within, name, octets, taken, rfl⟩
      rw [List.mem_singleton.mp within] at taken
      cases taken
      decide
    · cases there
    · cases there
  obtain ⟨record, compiled, -, -, on_lines⟩ := line_breaks_of_record created []
    Credentials.isTame_userName List.mem_cons_self (by decide) view ()
  obtain ⟨line, laid_out, -, clean⟩ := on_lines ⟨"requests", 20, .str "request", .ofList [],
    some (.ofFields record), none, .int 0⟩ rfl rfl true
  exact ⟨created, record, line, compiled, laid_out, clean (by decide) one_line⟩

/-- A user whose name holds a line feed is logged on two lines. -/
theorem line_breaks_of_forged_user :
    let registry : Registry Unit := ⟨Extractor.builtins Credentials.userName,
      [("who", [("remote-user", ⟨"remote-user", "remote-user", []⟩)])]⟩
    ∃ record line,
      Registry.create Credentials.userName [(.str "who", .list [.str "remote-user"])] =
        .ok registry ∧
      (registry.compile "who" (viewOfUser "YQpiOnB3") ()).outcome = .ok record ∧
      (Layout.text false).format ⟨"requests", 20, .str "request", .ofList [],
        some (.ofFields record),
        none, .int 0⟩ = .ok line ∧ line = "info: remote-user=a\nb" ∧ lineBreaks line = 1 :=
  ⟨[("remote-user", .str "a\nb")], "info: remote-user=a\nb", rfl, rfl, rfl, rfl, by decide⟩

end Logging
end RequestLog
