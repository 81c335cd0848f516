import RequestLog.Proofs.Registry.Containment
import RequestLog.Proofs.Text.Plain

/-!
# Exchanges whose texts are one line

The built-in extractors take their texts out of the exchange as they are.  Only dates and times are
written anew, in plain text.  So what they yield has no line break unless a text of the exchange has
one: its path, its method, a header, the name of a user, a status.
-/

namespace RequestLog

open Text

namespace Headers

/-- The text is the Latin text of a value that a header list holds. -/
def Holds (entries : List Value) (text : String) : Prop :=
  ∃ entry ∈ entries, ∃ name octets,
    entry.pair = .ok (name, .bytes octets) ∧ octets.latin = text

theorem holds_cons_of_holds {entry : Value} {rest : List Value} {text : String}
    (held : Holds rest text) : Holds (entry :: rest) text := by
  obtain ⟨later, within, parts⟩ := held
  exact ⟨later, List.mem_cons_of_mem _ within, parts⟩

theorem holds_of_decoded {entry raw value : Value} {rest : List Value} {text : String}
    (taken : entry.pair = .ok (raw, value)) (read : decoded value = .ok text) :
    Holds (entry :: rest) text := by
  cases value with
  | bytes octets => exact ⟨entry, List.mem_cons_self, raw, octets, taken, Except.ok.inj read⟩
  | _ => cases read

theorem holds_of_firstOf {name : Octets} {entries : List Value} {text : String}
    (found : firstOf name entries = .ok (some text)) : Holds entries text := by
  induction entries with
  | nil => cases found
  | cons entry rest ih =>
      simp only [firstOf, bind, Except.bind] at found
      split at found
      · cases found
      · next parts taken =>
          split at found
          · split at found
            · cases found
            · next first read =>
                obtain rfl : first = text := by simpa [pure, Except.pure] using found
                exact holds_of_decoded taken read
          · exact holds_cons_of_holds (ih found)

theorem holds_of_allOf {name : Octets} {entries : List Value} {texts : List String}
    (found : allOf name entries = .ok texts) : ∀ text ∈ texts, Holds entries text := by
  induction entries generalizing texts with
  | nil =>
      cases found
      exact fun _ within => by cases within
  | cons entry rest ih =>
      simp only [allOf, bind, Except.bind] at found
      split at found
      · cases found
      · next parts taken =>
          split at found
          · split at found
            · cases found
            · next first read =>
                split at found
                · cases found
                · next others rest_found =>
                    cases found
                    intro text within
                    rcases List.mem_cons.mp within with rfl | later
                    · exact holds_of_decoded taken read
                    · exact holds_cons_of_holds (ih rest_found text later)
          · exact fun text within => holds_cons_of_holds (ih found text within)

/-- No value that the headers hold has a line break. -/
def IsOneLine : Headers → Prop
  | listed entries => ∀ text, Holds entries text → lineBreaks text = 0
  | standIn (.dict entries) => ∀ entry ∈ entries, lineBreaks entry.2.text = 0
  | standIn _ => True

theorem IsOneLine.get {headers : Headers} (one_line : headers.IsOneLine) {name : String}
    {value : Value} (found : headers.get name = .ok value) : lineBreaks value.text = 0 := by
  cases headers with
  | listed entries =>
      simp only [Headers.get, bind, Except.bind] at found
      split at found
      · cases found
      · split at found
        · cases found
        · split at found
          · next text first =>
              cases found
              exact one_line text (holds_of_firstOf first)
          · cases found
            decide
  | standIn value =>
      cases value with
      | dict entries =>
          cases found
          rw [Value.entry?]
          cases there : entries.find? fun entry => entry.1.isText name with
          | none => decide
          | some entry => exact one_line entry (List.mem_of_find?_eq_some there)
      | _ => cases found

theorem IsOneLine.joined {headers : Headers} (one_line : headers.IsOneLine) {name text : String}
    (found : headers.joined name = .ok (some text)) : lineBreaks text = 0 := by
  cases headers with
  | standIn value => cases found
  | listed entries =>
      have each : ∀ texts, (listed entries).all name = .ok texts →
          ∀ part ∈ texts, lineBreaks part = 0 := by
        intro texts all_found part within
        simp only [all, bind, Except.bind] at all_found
        split at all_found
        · cases all_found
        · exact one_line part (holds_of_allOf all_found part within)
      simp only [Headers.joined, bind, Except.bind, pure, Except.pure] at found
      split at found
      · cases found
      · next texts all_found =>
          split at found
          · cases found
          · obtain rfl : Value.joinTexts texts = text := by simpa using found
            rw [Value.joinTexts, lineBreaks_intercalate (by decide),
              List.sum_eq_zero_iff_forall_eq_nat]
            simpa using each texts all_found

end Headers

/-- No text that the built-in extractors take out of the exchange has a line break. -/
structure Exchange.View.IsOneLine (users : UserReader) (view : Exchange.View) : Prop where
  url : lineBreaks view.request.url.text = 0
  method : lineBreaks view.request.method.text = 0
  httpVersion : lineBreaks view.request.httpVersion.text = 0
  address : lineBreaks view.request.address.text = 0
  user : ∀ name, users view.request = .ok (some name) → lineBreaks name.text = 0
  requestHeaders : view.request.headers.IsOneLine
  status : ∀ response, view.response = some response → lineBreaks response.status.text = 0
  responseHeaders : ∀ response, view.response = some response → response.headers.IsOneLine

/-- A value that is drawn has no line break. -/
def Outcome.IsOneLine (drawn : Outcome Value) : Prop :=
  ∀ value, drawn = .ok value → lineBreaks value.text = 0

namespace Outcome

theorem isOneLine_ok {value : Value} (one_line : lineBreaks value.text = 0) :
    IsOneLine (.ok value) := by
  rintro _ ⟨⟩
  exact one_line

theorem isOneLine_error (failure : Failure) : IsOneLine (.error failure) := by
  rintro _ ⟨⟩

theorem IsOneLine.field {drawn : Outcome Value} (one_line : drawn.IsOneLine) :
    lineBreaks (Extractor.field drawn).text = 0 := by
  cases drawn with
  | ok value => exact one_line value rfl
  | error failure => exact (by decide : lineBreaks Value.null.text = 0)

end Outcome

namespace Extractor

variable {σ : Type}

theorem isPlain_fixedPlaces (value : Decimal.Dyadic) (places : Nat) :
    (∀ c ∈ (Decimal.fixedPlaces value places).1, isPlain c = true) ∧
      ∀ c ∈ (Decimal.fixedPlaces value places).2, isPlain c = true := by
  simp only [Decimal.fixedPlaces, List.forall_mem_append]
  refine ⟨fun c front => ?_, fun c back => ?_, fun c zero => ?_⟩
  · exact isPlain_paddedText _ _ c (List.mem_of_mem_take front)
  · exact isPlain_paddedText _ _ c (List.mem_of_mem_drop back)
  · rw [List.eq_of_mem_replicate zero]
    decide

theorem isPlain_joinPoint {parts : List Char × List Char}
    (plain : (∀ c ∈ parts.1, isPlain c = true) ∧ ∀ c ∈ parts.2, isPlain c = true) :
    ∀ c ∈ Decimal.joinPoint parts, isPlain c = true := by
  rw [Decimal.joinPoint]
  split
  · exact plain.1
  · rw [List.forall_mem_append, List.forall_mem_cons]
    exact ⟨plain.1, by decide, plain.2⟩

theorem isPlain_fixedText (x : Float) (places : Nat) : IsPlain (fixedText x places) := by
  unfold fixedText
  split
  · decide
  · split <;> decide
  · next value finite =>
      rw [IsPlain, String.toList_ofList, List.forall_mem_append]
      refine ⟨?_, isPlain_joinPoint (isPlain_fixedPlaces value places)⟩
      split
      · exact List.forall_mem_singleton.mpr (by decide)
      · exact List.forall_mem_nil _

theorem isOneLine_fixedText (x : Float) (places : Nat) :
    Outcome.IsOneLine (.ok (.str (fixedText x places))) :=
  Outcome.isOneLine_ok (lineBreaks_of_isPlain (isPlain_fixedText x places))

theorem eq_fixedText_of_fixedTextIn {x : Float} {places : Nat} {text : String}
    (written : fixedTextIn x places = .ok text) : fixedText x places = text := by
  unfold fixedTextIn at written
  split at written
  · simp only [bind, Except.bind] at written
    split at written
    · cases written
    · exact Except.ok.inj written
  · exact Except.ok.inj written

theorem isOneLine_fixedTextBy (x : Float) (places : String) : (fixedTextBy x places).IsOneLine := by
  unfold fixedTextBy
  split
  · exact Outcome.isOneLine_error _
  · iterate 3
      split
      · exact Outcome.isOneLine_error _
    split
    · exact Outcome.isOneLine_error _
    · next text written =>
        rw [← eq_fixedText_of_fixedTextIn written]
        exact isOneLine_fixedText _ _

theorem isOneLine_responseTime (view : Exchange.View) (places : Option String) :
    (responseTime view places).IsOneLine := by
  unfold responseTime
  split
  · exact Outcome.isOneLine_error _
  · exact Outcome.isOneLine_ok (by decide)
  · exact isOneLine_fixedText _ 3
  · exact isOneLine_fixedTextBy _ _

theorem isOneLine_date (view : Exchange.View) (form : Option String) :
    (date view form).IsOneLine := by
  have web := lineBreaks_of_isPlain view.now.isPlain_webText
  have iso : lineBreaks view.now.isoText = 0 := by
    rw [Instant.isoText, lineBreaks_append, lineBreaks_of_isPlain view.now.isPlain_sortableText]
    decide
  unfold date
  split
  · exact Outcome.isOneLine_ok iso
  · exact Outcome.isOneLine_ok web
  · exact Outcome.isOneLine_ok web
  · exact Outcome.isOneLine_ok (by decide)

theorem isOneLine_ofHeader {headers : Headers} (one_line : headers.IsOneLine) (name : String) :
    (ofHeader (headers.joined name)).IsOneLine := by
  unfold ofHeader
  split
  · next found read =>
      cases found with
      | none => exact Outcome.isOneLine_ok (by decide)
      | some text => exact Outcome.isOneLine_ok (one_line.joined read)
  · exact Outcome.isOneLine_error _

theorem isOneLine_plain {name function : String} {draw : Exchange.View → Outcome Value}
    {view : Exchange.View} (one_line : (draw view).IsOneLine) (args : List String) (state : σ) :
    ((plain name function draw : Extractor σ).run view args state).1.IsOneLine := by
  rcases run_plain view args state with same | ⟨fault, same⟩ <;> rw [same]
  · exact one_line
  · exact Outcome.isOneLine_error fault

theorem isOneLine_optional {name : String} {least : Nat}
    {draw : Exchange.View → Option String → Outcome Value} {view : Exchange.View}
    (one_line : ∀ argument, (draw view argument).IsOneLine) (args : List String) (state : σ) :
    ((optional name least draw : Extractor σ).run view args state).1.IsOneLine := by
  rcases run_optional view args state with ⟨argument, same⟩ | ⟨fault, same⟩ <;> rw [same]
  · exact one_line argument
  · exact Outcome.isOneLine_error fault

theorem isOneLine_required {name argument : String}
    {draw : Exchange.View → String → Outcome Value} {view : Exchange.View}
    (one_line : ∀ value, (draw view value).IsOneLine) (args : List String) (state : σ) :
    ((required name argument draw : Extractor σ).run view args state).1.IsOneLine := by
  rcases run_required view args state with ⟨value, same⟩ | ⟨fault, same⟩ <;> rw [same]
  · exact one_line value
  · exact Outcome.isOneLine_error fault

section Builtins

variable {users : UserReader} {view : Exchange.View} (one_line : view.IsOneLine users)
include one_line

theorem isOneLine_ownHeader (name : String) : (ownHeader name view).IsOneLine := by
  unfold ownHeader
  split
  · next found read => exact Outcome.isOneLine_ok (one_line.requestHeaders.get read)
  · exact Outcome.isOneLine_error _

theorem isOneLine_referrer : (referrer view).IsOneLine := by
  unfold referrer
  split
  · exact Outcome.isOneLine_error _
  · next found read =>
      split
      · exact Outcome.isOneLine_ok (isOneLine_ownHeader one_line "referer" found read)
      · exact isOneLine_ownHeader one_line "referrer"

theorem isOneLine_remoteUser : (remoteUser users view).IsOneLine := by
  unfold remoteUser
  split
  · exact Outcome.isOneLine_error _
  · next name read =>
      cases name with
      | none => exact Outcome.isOneLine_ok (by decide)
      | some name => exact Outcome.isOneLine_ok (one_line.user name read)

theorem isOneLine_status : (status view).IsOneLine := by
  unfold status
  split
  · exact Outcome.isOneLine_ok (by decide)
  · next response there =>
      split
      · exact Outcome.isOneLine_ok (by decide)
      · split
        · exact Outcome.isOneLine_ok (by decide)
        · exact Outcome.isOneLine_ok (one_line.status response there)

theorem isOneLine_responseHeader (name : String) : (responseHeader view name).IsOneLine := by
  unfold responseHeader
  split
  · exact Outcome.isOneLine_ok (by decide)
  · next response there =>
      split
      · exact isOneLine_ofHeader (one_line.responseHeaders response there) name
      · exact Outcome.isOneLine_ok (by decide)

/-- What a built-in extractor draws out of an exchange of one-line texts is one line. -/
theorem isOneLine_of_mem_builtins {entry : String × Extractor σ} (present : entry ∈ builtins users)
    (args : List String) (state : σ) : (entry.2.run view args state).1.IsOneLine := by
  simp only [builtins, List.mem_cons, List.not_mem_nil, or_false] at present
  rcases present with rfl | rfl | rfl | rfl | rfl | rfl | rfl | rfl | rfl | rfl | rfl | rfl
  · exact isOneLine_plain (Outcome.isOneLine_ok one_line.url) args state
  · exact isOneLine_plain (Outcome.isOneLine_ok one_line.method) args state
  · exact isOneLine_optional (isOneLine_responseTime view) args state
  · exact isOneLine_optional (isOneLine_date view) args state
  · exact isOneLine_plain (isOneLine_status one_line) args state
  · exact isOneLine_plain (isOneLine_referrer one_line) args state
  · exact isOneLine_plain (Outcome.isOneLine_ok one_line.address) args state
  · exact isOneLine_plain (isOneLine_remoteUser one_line) args state
  · exact isOneLine_plain (Outcome.isOneLine_ok one_line.httpVersion) args state
  · exact isOneLine_plain (isOneLine_ownHeader one_line "user-agent") args state
  · exact isOneLine_required (isOneLine_ofHeader one_line.requestHeaders) args state
  · exact isOneLine_required (isOneLine_responseHeader one_line) args state

end Builtins

end Extractor
end RequestLog
