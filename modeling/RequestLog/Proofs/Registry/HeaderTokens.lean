import RequestLog.Proofs.Headers.Names
import RequestLog.Proofs.Registry.AnyCase
import RequestLog.Proofs.Registry.Builtins

/-!
# Tokens of headers

The name of a header may be written in any case and with blanks around it: the token has the name
without the blanks for its argument (`Token.ofValue_padded`), and lowering it gives the octets that
are looked up (`Headers.IsName.exists_lookupName`).  So a token of headers draws the values of all
headers with the name, in their order.
-/

namespace RequestLog

namespace Token

/-- Blanks on one line. -/
def IsPadding (text : String) : Prop :=
  ∀ c ∈ text.toList, Text.isBlank c = true ∧ c ≠ '\n'

theorem IsPadding.not_mem {text : String} (padding : IsPadding text) {mark : Char}
    (outside : Text.isBlank mark = false ∨ mark = '\n') : mark ∉ text.toList := by
  intro within
  obtain ⟨blank, same_line⟩ := padding mark within
  rcases outside with no_blank | newline
  · rw [blank] at no_blank
    cases no_blank
  · exact same_line newline

section Padded

variable {key argument front back : String}

/-- A single argument with blanks around it is spelt by a text between brackets. -/
theorem exists_spelling_padded (isKey : IsKey key) (isArgument : IsArgument argument)
    (some_text : argument ≠ "") (padded_front : IsPadding front) (padded_back : IsPadding back) :
    ∃ spelling : Spelling, spelling.text = key ++ "[" ++ (front ++ argument ++ back) ++ "]" ∧
      spelling.name = key.toList ∧ spelling.arguments = [argument] := by
  let body := front.toList ++ argument.toList ++ back.toList
  have some_body : body ≠ [] := by simp [body, some_text]
  have outside {mark : Char} (absent : mark ∉ argument.toList)
      (unpadded : Text.isBlank mark = false ∨ mark = '\n') : mark ∉ body := by
    simp only [body, List.mem_append, not_or]
    exact ⟨⟨padded_front.not_mem unpadded, absent⟩, padded_back.not_mem unpadded⟩
  have one_line : '\n' ∉ body := outside isArgument.newline_not_mem (Or.inr rfl)
  have uncut : ',' ∉ body := outside isArgument.comma_not_mem (Or.inl (by decide))
  have trimmed : Text.trim body = argument.toList := Text.trim_between
    (fun c within => (padded_front c within).1) isArgument.trimmed
    (fun c within => (padded_back c within).1)
  obtain ⟨spelling, text_eq, name_eq, body_eq⟩ := exists_spelling_bracketed isKey some_body one_line
  refine ⟨spelling, ?_, name_eq, ?_⟩
  · rw [text_eq]
    apply String.toList_injective
    simp [body]
  · simp only [Spelling.arguments, body_eq]
    rw [List.splitOn_eq_singleton uncut, List.map_singleton, trimmed, String.ofList_toList]

/-- A single argument is read without the blanks around it. -/
theorem ofValue_padded (isKey : IsKey key) (isArgument : IsArgument argument)
    (some_text : argument ≠ "") (padded_front : IsPadding front) (padded_back : IsPadding back) :
    let text := key ++ "[" ++ (front ++ argument ++ back) ++ "]"
    ofValue (.str text) = .ok ⟨text, key, [argument]⟩ := by
  obtain ⟨spelling, text_eq, name_eq, args_eq⟩ :=
    exists_spelling_padded isKey isArgument some_text padded_front padded_back
  exact ofValue_of_spelling isKey text_eq name_eq args_eq

end Padded
end Token

namespace Extractor

theorem find?_builtins_req {σ : Type} (users : UserReader) : (builtins (σ := σ) users).find? "req" =
    some (.required "req_header" "field" requestHeader) := rfl

theorem find?_builtins_res {σ : Type} (users : UserReader) : (builtins (σ := σ) users).find? "res" =
    some (.required "res_header" "field" responseHeader) := rfl

variable {view : Exchange.View} {response : Response}

theorem responseHeader_of_sent (answered : view.response = some response)
    (sent : response.headersSent = true) (name : String) :
    responseHeader view name = ofHeader (response.headers.joined name) := by
  simp only [responseHeader, answered, sent, ↓reduceIte]

theorem responseHeader_of_unsent
    (unsent : ∀ response, view.response = some response → response.headersSent = false)
    (name : String) : responseHeader view name = .ok .null := by
  rw [responseHeader]
  cases answered : view.response with
  | none => rfl
  | some response => simp only [unsent response answered, Bool.false_eq_true, ↓reduceIte]

end Extractor

namespace Registry

variable {σ : Type} {users : UserReader} {plan : Plan} {fresh : Registry σ}
variable {name spelled front back : String}

/-- A token of a built-in extractor with one argument draws with a name as it is spelt between the
blanks. -/
theorem evaluate_padded (created : create users plan = .ok fresh) (history : List (Registration σ))
    {key function parameter : String} {draw : Exchange.View → String → Outcome Value}
    (builtin : (Extractor.builtins users).find? key =
      some (Extractor.required function parameter draw (σ := σ)))
    (named : Headers.IsName name)
    (respelled : Text.lowercase spelled = Text.lowercase name)
    (padded_front : Token.IsPadding front) (padded_back : Token.IsPadding back)
    (view : Exchange.View) (state : σ) :
    (fresh.after history).evaluate (.str (key ++ "[" ++ (front ++ spelled ++ back) ++ "]"))
      view state = (draw view spelled, state) := by
  obtain ⟨isArgument, some_text⟩ := named.isArgument_of_lowercase_eq respelled
  have found := lookup?_after_create created history builtin
  have read := Token.ofValue_padded (Extractor.isKey_of_builtin builtin) isArgument some_text
    padded_front padded_back
  exact evaluate_of_found found read rfl view state

/-- A token of headers draws the values of all headers with the name, in their order and with commas
between them, or nothing if there is no header with the name, however the name is spelt and padded.
Of a response it draws nothing until the head has been sent. -/
theorem header_tokens_collect_values (created : create users plan = .ok fresh)
    (history : List (Registration σ)) (named : Headers.IsName name)
    (respelled : Text.lowercase spelled = Text.lowercase name)
    (padded_front : Token.IsPadding front) (padded_back : Token.IsPadding back)
    (view : Exchange.View) (state : σ) :
    let key := Text.lowercase name
    let draws (extractor : String) (value : Value) :=
      (fresh.after history).evaluate (.str (extractor ++ "[" ++ (front ++ spelled ++ back) ++ "]"))
        view state = (.ok value, state)
    (∀ pairs, view.request.headers.HasPairs pairs →
      draws "req" (Headers.valueOfTexts (Headers.textsOf key pairs))) ∧
    (∀ response pairs, view.response = some response → response.headersSent = true →
      response.headers.HasPairs pairs →
      draws "res" (Headers.valueOfTexts (Headers.textsOf key pairs))) ∧
    ((∀ response, view.response = some response → response.headersSent = false) →
      draws "res" .null) ∧
    ∀ pairs, Headers.valueOfTexts (Headers.textsOf key pairs) = .null ↔
      ∀ pair ∈ pairs, pair.1.latin ≠ key := by
  intro key draws
  obtain ⟨octets, lookup⟩ := named.exists_lookupName respelled
  have drawn {headers : Headers} {pairs : List (Octets × Octets)}
      (listed : headers.HasPairs pairs) :
      Extractor.ofHeader (headers.joined spelled) =
        .ok (Headers.valueOfTexts (Headers.textsOf key pairs)) := by
    rw [Headers.ofHeader_joined_of_hasPairs listed lookup, respelled]
  have req := evaluate_padded created history (Extractor.find?_builtins_req users) named respelled
    padded_front padded_back view state
  have res := evaluate_padded created history (Extractor.find?_builtins_res users) named respelled
    padded_front padded_back view state
  refine ⟨fun pairs listed => ?_, fun response pairs answered sent listed => ?_, fun unsent => ?_,
    fun pairs => Headers.valueOfTexts_eq_null_iff.trans Headers.textsOf_eq_nil_iff⟩
  · rw [Extractor.requestHeader, drawn listed] at req
    exact req
  · rw [Extractor.responseHeader_of_sent answered sent, drawn listed] at res
    exact res
  · rw [Extractor.responseHeader_of_unsent unsent] at res
    exact res

/-- Two headers with the name around another one and one that is empty, the name in mixed case
between blanks; the response has the name once, and its head has been sent. -/
theorem header_tokens_collect_values_of_mixed_case :
    let trace := Octets.ofText "x-trace"
    let pairs := [(trace, Octets.ofText "a"), (Octets.ofText "host", Octets.ofText "b"),
      (trace, []), (trace, [252])]
    let request : Request :=
      ⟨.ofPairs pairs, .str "GET", .str "/", .str "1.1", .null, .null, .null, .null, none⟩
    let response : Response :=
      { Response.fresh with headers := .ofPairs [(trace, Octets.ofText "c")], headersSent := true }
    let fresh : Registry Unit := ⟨Extractor.builtins Credentials.userName, []⟩
    let view (response : Option Response) : Exchange.View := ⟨request, response, ⟨0⟩⟩
    fresh.evaluate (.str "req[\t X-TRACE ]") (view none) () = (.ok (.str "a, , ü"), ()) ∧
      fresh.evaluate (.str "res[\t X-TRACE ]") (view (some response)) () = (.ok (.str "c"), ()) ∧
      fresh.evaluate (.str "res[\t X-TRACE ]") (view (some .fresh)) () = (.ok .null, ()) := by
  intro trace pairs request response fresh view
  have created : create Credentials.userName [] = .ok fresh := rfl
  have named : Headers.IsName "x-Trace" := by
    have plain : Text.trim "x-Trace".toList = "x-Trace".toList := by decide +kernel
    refine ⟨⟨by decide, by decide, (Text.trim_eq_iff.mp plain).1⟩, by decide, ?_⟩
    simp
  have respelled : Text.lowercase "X-TRACE" = Text.lowercase "x-Trace" :=
    named.lowercase_eq_of_map_toLower (by decide)
  have blank : Text.isBlank '\t' = true ∧ Text.isBlank ' ' = true := by decide
  have front : Token.IsPadding "\t " := by simpa [Token.IsPadding] using blank
  have back : Token.IsPadding " " := by simpa [Token.IsPadding] using blank.2
  have collected (response : Option Response) :=
    header_tokens_collect_values created [] named respelled front back (view response) ()
  exact ⟨(collected none).1 pairs (Headers.hasPairs_ofPairs pairs),
    (collected (some response)).2.1 response _ rfl rfl (Headers.hasPairs_ofPairs _),
    (collected (some .fresh)).2.2.1 fun _ answered => Option.some.inj answered ▸ rfl⟩

end Registry
end RequestLog
