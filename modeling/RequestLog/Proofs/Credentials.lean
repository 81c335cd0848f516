import RequestLog.Proofs.Base64
import RequestLog.Proofs.Headers
import RequestLog.Proofs.Registry.Builtins
import RequestLog.Proofs.Text.Lowered
import RequestLog.Proofs.Text.Trimmed

/-!
# Basic credentials

A header holds credentials exactly if behind the name of the scheme and a blank there is, between
blanks, what Base64 decodes to their plain text in UTF-8 (`ofHeader_eq_some_iff`).  A `Spelling` is
one way to write them, and every spelling is read back (`ofHeader_text`).
-/

namespace RequestLog

namespace Octets

/-- Octets are read as the text whose encoding they are. -/
theorem text?_eq_some_iff {octets : Octets} {text : String} :
    octets.text? = some text ↔ octets = ofText text := by
  rw [text?, String.fromUTF8?]
  constructor
  · intro read
    split at read
    · rw [← Option.some.inj read]
      rfl
    · cases read
  · rintro rfl
    exact dif_pos text.isValidUTF8

theorem ofText_ne_nil {text : String} (some_char : text ≠ "") : ofText text ≠ [] := by
  intro empty
  have size : text.utf8ByteSize = 0 := congrArg List.length empty
  exact some_char (String.utf8ByteSize_eq_zero_iff.mp size)

end Octets

namespace Credentials

/-- The text that is encoded for credentials. -/
def plain (credentials : Credentials) : String :=
  credentials.name ++ ":" ++ credentials.password

/-- The text is the name of the basic scheme, in any case. -/
def IsScheme (text : String) : Prop :=
  text.toList.map Char.toLower = "basic".toList

instance (text : String) : Decidable (IsScheme text) :=
  inferInstanceAs (Decidable (text.toList.map Char.toLower = "basic".toList))

theorem plain_ne_empty (credentials : Credentials) : credentials.plain ≠ "" := by
  intro empty
  have colon : ':' ∈ credentials.plain.toList := by simp [plain]
  simp [empty] at colon

/-- A decoded text holds the credentials that it is the plain text of; the first colon ends the
name. -/
theorem ofDecoded?_eq_some_iff {text : String} {credentials : Credentials} :
    ofDecoded? text = some credentials ↔
      text = credentials.plain ∧ ':' ∉ credentials.name.toList := by
  have cut : ofDecoded? text = some credentials ↔
      Text.halves ':' text.toList =
        (credentials.name.toList, some credentials.password.toList) := by
    rw [ofDecoded?]
    rcases Text.halves ':' text.toList with ⟨front, _ | back⟩
    · simp
    · obtain ⟨name, password⟩ := credentials
      simp [String.ext_iff]
  rw [cut, Text.halves_eq_some_iff, plain, String.ext_iff]
  simp

theorem IsScheme.no_blank {scheme : String} (basic : IsScheme scheme) : ' ' ∉ scheme.toList := by
  intro within
  have lowered : Char.toLower ' ' ∈ "basic".toList := basic ▸ List.mem_map_of_mem within
  exact absurd lowered (by decide)

theorem isScheme_iff (scheme : String) :
    IsScheme scheme ↔ Text.lower scheme.toList = "basic".toList := by
  have plain_word : ∀ c ∈ "basic".toList, c.toNat < 128 ∧ c ≠ 'k' := by simp
  rw [IsScheme, Text.lower, Text.lowerFrom_eq_iff plain_word]

/-- A way to write credentials into a header. -/
structure Spelling where
  /-- The credentials. -/
  credentials : Credentials
  /-- The name of the scheme, as it is written. -/
  scheme : String
  /-- What stands between the blank behind the scheme and the encoded part. -/
  front : String
  /-- What stands behind the encoded part. -/
  back : String
  /-- A colon in the name would end it. -/
  no_colon : ':' ∉ credentials.name.toList
  /-- The scheme is the basic one. -/
  basic : IsScheme scheme
  /-- There are blanks before the encoded part, if anything. -/
  front_blank : ∀ c ∈ front.toList, Text.isBlank c = true
  /-- There are blanks behind the encoded part, if anything. -/
  back_blank : ∀ c ∈ back.toList, Text.isBlank c = true

namespace Spelling

/-- The encoded part with the blanks around it. -/
def body (spelling : Spelling) : String :=
  spelling.front ++ String.ofList (Base64.encode (Octets.ofText spelling.credentials.plain)) ++
    spelling.back

/-- The text of the header. -/
def text (spelling : Spelling) : String :=
  spelling.scheme ++ " " ++ spelling.body

/-- What is encoded is found between the blanks. -/
theorem trim_body (spelling : Spelling) :
    Text.trim spelling.body.toList =
      Base64.encode (Octets.ofText spelling.credentials.plain) := by
  have characters := Base64.plain_of_decode?
    (Base64.decode?_encode (Octets.ofText spelling.credentials.plain))
  rw [body, String.toList_append, String.toList_append, String.toList_ofList]
  exact Text.trim_between spelling.front_blank
    ⟨fun c found => (characters c (List.mem_of_head? found)).2,
      fun c found => (characters c (List.mem_of_getLast? found)).2⟩ spelling.back_blank

end Spelling

/-- Behind the name of the scheme, an encoded part in ASCII is decoded. -/
theorem ofHeader_of_basic {scheme rest : String} (basic : IsScheme scheme)
    (some_code : Text.trim rest.toList ≠ []) :
    ofHeader (scheme ++ " " ++ rest) =
      if (Text.trim rest.toList).any fun c => 128 ≤ c.toNat then .error .beyondAscii
      else .ok ((Base64.decode? (Text.trim rest.toList)).bind fun octets =>
        octets.text?.bind ofDecoded?) := by
  have cut : Text.halves ' ' (scheme ++ " " ++ rest).toList =
      (scheme.toList, some rest.toList) := by
    rw [Text.halves_eq_some_iff]
    exact ⟨by simp, basic.no_blank⟩
  have usable : ¬(Text.lower scheme.toList ≠ "basic".toList ∨ Text.trim rest.toList = []) := by
    rw [not_or, not_ne_iff]
    exact ⟨(isScheme_iff scheme).mp basic, some_code⟩
  simp only [ofHeader, cut, if_neg usable]
  rfl

/-- A header without the scheme, a blank and an encoded part holds no credentials. -/
theorem ofHeader_cases (header : String) :
    ofHeader header = .ok none ∨ ∃ scheme rest, header = scheme ++ " " ++ rest ∧
      IsScheme scheme ∧ Text.trim rest.toList ≠ [] := by
  rw [ofHeader]
  rcases cut : Text.halves ' ' header.toList with ⟨scheme, _ | rest⟩
  · exact Or.inl rfl
  · by_cases unusable : Text.lower scheme ≠ "basic".toList ∨ Text.trim rest = []
    · exact Or.inl (if_pos unusable)
    · rw [not_or, not_ne_iff] at unusable
      obtain ⟨parts, -⟩ := Text.halves_eq_some_iff.mp cut
      refine Or.inr ⟨String.ofList scheme, String.ofList rest, ?_, ?_, ?_⟩
      · rw [String.ext_iff, parts]
        simp
      · rw [isScheme_iff, String.toList_ofList]
        exact unusable.1
      · rw [String.toList_ofList]
        exact unusable.2

/-- A header holds credentials exactly if they are written there. -/
theorem ofHeader_eq_some_iff {header : String} {credentials : Credentials} :
    ofHeader header = .ok (some credentials) ↔
      ':' ∉ credentials.name.toList ∧ ∃ scheme rest, header = scheme ++ " " ++ rest ∧
        IsScheme scheme ∧
        Base64.decode? (Text.trim rest.toList) = some (Octets.ofText credentials.plain) := by
  constructor
  · intro read
    rcases ofHeader_cases header with nothing | ⟨scheme, rest, rfl, basic, some_code⟩
    · rw [nothing] at read
      cases read
    · rw [ofHeader_of_basic basic some_code] at read
      split at read
      · cases read
      · obtain ⟨octets, decoded, read⟩ := Option.bind_eq_some_iff.mp (Except.ok.inj read)
        obtain ⟨text, encoded, read⟩ := Option.bind_eq_some_iff.mp read
        obtain ⟨rfl, named⟩ := ofDecoded?_eq_some_iff.mp read
        obtain rfl := Octets.text?_eq_some_iff.mp encoded
        exact ⟨named, scheme, rest, rfl, basic, decoded⟩
  · rintro ⟨named, scheme, rest, rfl, basic, decoded⟩
    have some_code : Text.trim rest.toList ≠ [] := by
      intro empty
      rw [empty] at decoded
      exact Octets.ofText_ne_nil credentials.plain_ne_empty (Option.some.inj decoded).symm
    have ascii : ((Text.trim rest.toList).any fun c => 128 ≤ c.toNat) = false := by
      refine List.any_eq_false.mpr fun c within => ?_
      have small := (Base64.plain_of_decode? decoded c within).1
      simpa using small
    have read : ofDecoded? credentials.plain = some credentials :=
      ofDecoded?_eq_some_iff.mpr ⟨rfl, named⟩
    have encoded : (Octets.ofText credentials.plain).text? = some credentials.plain :=
      Octets.text?_eq_some_iff.mpr rfl
    rw [ofHeader_of_basic basic some_code, ascii, decoded]
    simp [encoded, read]

theorem ofHeader_text (spelling : Spelling) :
    ofHeader spelling.text = .ok (some spelling.credentials) := by
  have decoded : Base64.decode? (Text.trim spelling.body.toList) =
      some (Octets.ofText spelling.credentials.plain) := by
    rw [spelling.trim_body, Base64.decode?_encode]
  exact ofHeader_eq_some_iff.mpr
    ⟨spelling.no_colon, spelling.scheme, spelling.body, rfl, spelling.basic, decoded⟩

/-! ## Requests -/

/-- The octets of the name of the header that carries credentials. -/
def headerName : Octets :=
  Octets.ofText "authorization"

theorem lookupName_authorization : Headers.lookupName "authorization" = .ok headerName := by
  rfl

/-- A request carries credentials exactly if its first authorization header holds them. -/
theorem ofRequest_eq_some_iff {request : Request} {credentials : Credentials} :
    ofRequest request = .ok (some credentials) ↔
      ∃ header, request.headers.get "authorization" = .ok (.str header) ∧
        ofHeader header = .ok (some credentials) := by
  rw [ofRequest]
  cases found : request.headers.get "authorization" with
  | error fault => simp [bind, Except.bind]
  | ok value =>
      cases value with
      | str header => simp [bind, Except.bind]
      | _ =>
          simp only [bind, Except.bind]
          split <;> simp_all [pure, Except.pure]

/-- Credentials that a request carries are shown by the extractor of the user's name. -/
theorem evaluate_remoteUser {σ : Type} {plan : Registry.Plan} {fresh : Registry σ}
    (created : Registry.create userName plan = .ok fresh) (history : List (Registration σ))
    {view : Exchange.View} {credentials : Credentials}
    (carried : ofRequest view.request = .ok (some credentials)) (state : σ) :
    (fresh.after history).evaluate (.str "remote-user") view state =
      (.ok (.str credentials.name), state) := by
  have shown : Extractor.remoteUser userName view = .ok (.str credentials.name) := by
    rw [Extractor.remoteUser, userName, carried]
    rfl
  rw [Registry.evaluate_plain created history rfl, shown]

/-- Basic credentials are read back.  Credentials whose name holds no colon, written in UTF-8 and
Base64 behind the name of the scheme in any case, with any blanks around them, into the first
authorization header of a request, are the credentials of the request, and their name is what the
extractor of the user's name yields.  And whatever credentials a request has are written in its
first authorization header: their name holds no colon, the first blank of the header comes behind
the name of the scheme in some case, and what stands between the blanks behind it is decoded to the
name, a colon and the password. -/
theorem basic_credentials_round_trip :
    (∀ (spelling : Spelling) (value : Octets) (entries : List Value) (request : Request),
      value.latin = spelling.text → request.headers = .listed entries →
      Headers.HasFirst headerName value entries →
      ofRequest request = .ok (some spelling.credentials) ∧
        ∀ {σ : Type} {plan : Registry.Plan} {fresh : Registry σ},
          Registry.create userName plan = .ok fresh →
          ∀ (history : List (Registration σ)) (view : Exchange.View) (state : σ),
            view.request = request →
            (fresh.after history).evaluate (.str "remote-user") view state =
              (.ok (.str spelling.credentials.name), state)) ∧
    ∀ (request : Request) (credentials : Credentials),
      ofRequest request = .ok (some credentials) →
      ':' ∉ credentials.name.toList ∧ ∃ header scheme rest,
        request.headers.get "authorization" = .ok (.str header) ∧
        (∀ entries, request.headers = .listed entries →
          ∃ value, Headers.HasFirst headerName value entries ∧ value.latin = header) ∧
        header = scheme ++ " " ++ rest ∧ ' ' ∉ scheme.toList ∧ IsScheme scheme ∧
        Base64.decode? (Text.trim rest.toList) =
          some (Octets.ofText (credentials.name ++ ":" ++ credentials.password)) := by
  constructor
  · intro spelling value entries request written listed first
    have got : request.headers.get "authorization" = .ok (.str spelling.text) := by
      rw [listed, Headers.get_listed_eq_str_iff lookupName_authorization]
      exact ⟨value, first, written⟩
    have carried : ofRequest request = .ok (some spelling.credentials) :=
      ofRequest_eq_some_iff.mpr ⟨spelling.text, got, ofHeader_text spelling⟩
    refine ⟨carried, fun created history view state same => ?_⟩
    exact evaluate_remoteUser created history (same ▸ carried) state
  · intro request credentials carried
    obtain ⟨header, got, read⟩ := ofRequest_eq_some_iff.mp carried
    obtain ⟨no_colon, scheme, rest, parts, basic, decoded⟩ := ofHeader_eq_some_iff.mp read
    refine ⟨no_colon, header, scheme, rest, got, fun entries listed => ?_, parts, basic.no_blank,
      basic, decoded⟩
    rw [listed] at got
    exact (Headers.get_listed_eq_str_iff lookupName_authorization).mp got

/-- The scheme in mixed case, a tab and a no-break space around the encoded part, and colons in the
password; an entry that is no header follows. -/
theorem basic_credentials_round_trip_of_colons :
    let fresh : Registry Unit := ⟨Extractor.builtins userName, []⟩
    let value : Octets := Octets.ofText "bAsIC \tasO8OjphOsOf" ++ [160, 32]
    let entries : List Value := [.list [.bytes [104], .bytes [120]],
      .tuple [.bytes headerName, .bytes value], .int 5]
    let request : Request :=
      ⟨.listed entries, .str "GET", .str "/", .str "1.1", .null, .null, .null, .null, none⟩
    ofRequest request = .ok (some ⟨"jü", ":a:ß"⟩) ∧
      fresh.evaluate (.str "remote-user") ⟨request, none, ⟨0⟩⟩ () = (.ok (.str "jü"), ()) ∧
      ∃ header scheme rest, header = scheme ++ " " ++ rest ∧ IsScheme scheme ∧
        Base64.decode? (Text.trim rest.toList) = some (Octets.ofText "jü::a:ß") := by
  intro fresh value entries request
  let spelling : Spelling :=
    ⟨⟨"jü", ":a:ß"⟩, "bAsIC", "\t", "\u00A0 ", by decide, by decide +kernel,
    List.all_eq_true.mp rfl, List.all_eq_true.mp rfl⟩
  have written : value.latin = spelling.text := by decide +kernel
  have first : Headers.HasFirst headerName value entries := .later rfl rfl (.here rfl)
  have created : Registry.create userName [] = .ok fresh := rfl
  obtain ⟨forth, back⟩ := basic_credentials_round_trip
  obtain ⟨carried, shown⟩ := forth spelling value entries request written rfl first
  obtain ⟨-, header, scheme, rest, -, -, parts, -, basic, decoded⟩ := back request _ carried
  exact ⟨carried, shown created [] ⟨request, none, ⟨0⟩⟩ () rfl, header, scheme, rest, parts, basic,
    decoded⟩

end Credentials
end RequestLog
