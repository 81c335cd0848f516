import Mathlib.Data.List.Basic
import RequestLog.Extractor
import RequestLog.Proofs.Headers
import RequestLog.Proofs.Text.Lowered

/-!
# Headers that are pairs of octets

Where every entry of a header list is a pair of octets, a lookup of a name that has octets never
fails, and it finds the texts of the headers whose raw name is the one looked for, in their order
(`textsOf`).  Joined by commas, no part of them comes to the same as all of them
(`eq_of_valueOfTexts_eq`).  The first hop that proxies report is the first element of the first such
text (`firstHop?`).
-/

namespace RequestLog

namespace Octets

theorem toNat_ofNat_octet (octet : UInt8) : (Char.ofNat octet.toNat).toNat = octet.toNat := by
  have bound := octet.toNat_lt
  have valid : octet.toNat.isValidChar := Or.inl (by omega)
  rw [Char.toNat_ofNat, if_pos valid]

theorem toNat_lt_of_mem_latin {octets : Octets} {c : Char} (within : c ∈ octets.latin.toList) :
    c.toNat < 256 := by
  rw [latin, String.toList_ofList] at within
  obtain ⟨octet, -, rfl⟩ := List.mem_map.mp within
  rw [toNat_ofNat_octet]
  exact octet.toNat_lt

/-- The octets of a text are those that it is the Latin text of. -/
theorem ofLatin_eq_ok_iff {text : String} {octets : Octets} :
    ofLatin text = .ok octets ↔ octets.latin = text := by
  constructor
  · intro read
    rw [ofLatin] at read
    split at read
    · cases read
    · next within =>
        obtain rfl := Except.ok.inj read
        rw [List.findIdx?_eq_none_iff] at within
        have char_back : ∀ c ∈ text.toList, Char.ofNat (UInt8.ofNat c.toNat).toNat = c := by
          intro c present
          have small : c.toNat < 256 := by simpa [isBeyondLatin] using within c present
          rw [UInt8.toNat_ofNat', Nat.mod_eq_of_lt small, Char.ofNat_toNat]
        rw [latin, List.map_map, String.ext_iff, String.toList_ofList]
        exact (List.map_congr_left char_back).trans (List.map_id _)
  · rintro rfl
    have within : octets.latin.toList.findIdx? isBeyondLatin = none := by
      rw [List.findIdx?_eq_none_iff]
      intro c present
      simpa [isBeyondLatin] using toNat_lt_of_mem_latin present
    have octet_back (octet : UInt8) : UInt8.ofNat (Char.ofNat octet.toNat).toNat = octet := by
      rw [toNat_ofNat_octet, UInt8.ofNat_toNat]
    simp only [ofLatin, within]
    rw [latin, String.toList_ofList, List.map_map]
    exact congrArg _ ((List.map_congr_left fun octet _ => octet_back octet).trans (List.map_id _))

theorem latin_injective : Function.Injective latin := by
  intro left right same
  have back := ofLatin_eq_ok_iff.mpr same
  rw [ofLatin_eq_ok_iff.mpr rfl] at back
  exact (Except.ok.inj back).symm

/-- A text without characters beyond Latin is the Latin text of octets. -/
theorem exists_latin_eq {text : String} (small : ∀ c ∈ text.toList, c.toNat < 256) :
    ∃ octets : Octets, octets.latin = text := by
  have within : text.toList.findIdx? isBeyondLatin = none := by
    rw [List.findIdx?_eq_none_iff]
    intro c present
    simpa [isBeyondLatin] using small c present
  exact ⟨_, ofLatin_eq_ok_iff.mp (by rw [ofLatin, within])⟩

end Octets

/-- A part of a list that weighs as much as the list is all of it. -/
theorem eq_of_sublist_of_sum_eq {α : Type} {weight : α → Nat} (positive : ∀ a, 0 < weight a)
    {part whole : List α} (within : part.Sublist whole)
    (balanced : (part.map weight).sum = (whole.map weight).sum) : part = whole := by
  induction within with
  | slnil => rfl
  | @cons part whole a within ih =>
      have bound : (part.map weight).sum ≤ (whole.map weight).sum :=
        (within.map weight).sum_le_sum fun _ _ => Nat.zero_le _
      rw [List.map_cons, List.sum_cons] at balanced
      have heavy := positive a
      omega
  | cons_cons a within ih =>
      rw [List.map_cons, List.map_cons, List.sum_cons, List.sum_cons] at balanced
      rw [ih (Nat.add_left_cancel balanced)]

/-- The first element of a list with commas, without the blanks around it, if anything is left. -/
def Text.firstElement? (text : String) : Option String :=
  let element := trim ((text.toList.splitOn ',').headD [])
  if element = [] then none else some (String.ofList element)

namespace Headers

/-- The entries are pairs of octets. -/
def ArePairs (entries : List Value) (pairs : List (Octets × Octets)) : Prop :=
  entries.map Value.pair = pairs.map fun pair => .ok (.bytes pair.1, .bytes pair.2)

/-- The headers are a list of pairs of octets. -/
def HasPairs (headers : Headers) (pairs : List (Octets × Octets)) : Prop :=
  ∃ entries, headers = .listed entries ∧ ArePairs entries pairs

/-- The texts of the headers with a raw name, in order. -/
def textsOf (name : String) (pairs : List (Octets × Octets)) : List String :=
  (pairs.filter fun pair => pair.1.latin = name).map fun pair => pair.2.latin

/-- What the texts of headers come to: the texts with commas between them, if there are any. -/
def valueOfTexts (texts : List String) : Value :=
  if texts = [] then .null else .str (", ".intercalate texts)

theorem arePairs_map (pairs : List (Octets × Octets)) :
    ArePairs (pairs.map fun pair => .tuple [.bytes pair.1, .bytes pair.2]) pairs := by
  rw [ArePairs, List.map_map]
  rfl

theorem hasPairs_ofPairs (pairs : List (Octets × Octets)) : (ofPairs pairs).HasPairs pairs :=
  ⟨_, rfl, arePairs_map pairs⟩

theorem arePairs_nil_iff {pairs : List (Octets × Octets)} : ArePairs [] pairs ↔ pairs = [] := by
  rw [ArePairs, List.map_nil, eq_comm, List.map_eq_nil_iff]

theorem arePairs_cons_iff {entry : Value} {rest : List Value} {pairs : List (Octets × Octets)} :
    ArePairs (entry :: rest) pairs ↔ ∃ pair others, pairs = pair :: others ∧
      entry.pair = .ok (.bytes pair.1, .bytes pair.2) ∧ ArePairs rest others := by
  rw [ArePairs, List.map_cons]
  constructor
  · intro same
    obtain ⟨pair, others, rfl, first, later⟩ := List.map_eq_cons_iff.mp same.symm
    exact ⟨pair, others, rfl, first.symm, later.symm⟩
  · rintro ⟨pair, others, rfl, first, later⟩
    rw [List.map_cons, first]
    exact congrArg _ later

theorem textsOf_cons (name : String) (pair : Octets × Octets) (rest : List (Octets × Octets)) :
    textsOf name (pair :: rest) =
      if pair.1.latin = name then pair.2.latin :: textsOf name rest else textsOf name rest := by
  rw [textsOf, List.filter_cons]
  by_cases named : pair.1.latin = name <;> simp [named, textsOf]

theorem textsOf_eq_nil_iff {name : String} {pairs : List (Octets × Octets)} :
    textsOf name pairs = [] ↔ ∀ pair ∈ pairs, pair.1.latin ≠ name := by
  simp [textsOf]

theorem valueOfTexts_eq_null_iff {texts : List String} :
    valueOfTexts texts = .null ↔ texts = [] := by
  rw [valueOfTexts]
  split <;> simp [*]

/-- A raw name is the one looked for just if its text is. -/
theorem hasName_bytes_iff {raw octets : Octets} :
    hasName (.bytes raw) octets = true ↔ raw.latin = octets.latin := by
  rw [hasName_eq_true_iff, Octets.latin_injective.eq_iff, Value.bytes.injEq]

section Lookups

variable {entries : List Value} {pairs : List (Octets × Octets)} {octets : Octets}

/-- Looking a name up in pairs of octets gives the texts of all headers with the name. -/
theorem allOf_of_arePairs (listed : ArePairs entries pairs) :
    allOf octets entries = .ok (textsOf octets.latin pairs) := by
  induction entries generalizing pairs with
  | nil => rw [arePairs_nil_iff.mp listed]; rfl
  | cons entry rest ih =>
      obtain ⟨pair, others, rfl, split, later⟩ := arePairs_cons_iff.mp listed
      rw [allOf, split, textsOf_cons, ih later]
      simp only [bind, Except.bind, hasName_bytes_iff, decoded]
      split <;> rfl

/-- Looking for one header with a name gives the text of the first one. -/
theorem firstOf_of_arePairs (listed : ArePairs entries pairs) :
    firstOf octets entries = .ok (textsOf octets.latin pairs).head? := by
  induction entries generalizing pairs with
  | nil => rw [arePairs_nil_iff.mp listed]; rfl
  | cons entry rest ih =>
      obtain ⟨pair, others, rfl, split, later⟩ := arePairs_cons_iff.mp listed
      rw [firstOf, split, textsOf_cons, ih later]
      simp only [bind, Except.bind, hasName_bytes_iff, decoded]
      split <;> rfl

end Lookups

theorem lookupName_eq_ok_iff {name : String} {octets : Octets} :
    lookupName name = .ok octets ↔ octets.latin = Text.lowercase name := by
  rw [← Octets.ofLatin_eq_ok_iff, lookupName]
  cases Octets.ofLatin (Text.lowercase name) <;> simp

section Values

variable {headers : Headers} {pairs : List (Octets × Octets)} {name : String} {octets : Octets}

theorem get_of_hasPairs (listed : headers.HasPairs pairs) (lookup : lookupName name = .ok octets) :
    headers.get name =
      .ok (((textsOf (Text.lowercase name) pairs).head?.map Value.str).getD .null) := by
  obtain ⟨entries, rfl, paired⟩ := listed
  rw [get, lookup, ← lookupName_eq_ok_iff.mp lookup]
  simp only [bind, Except.bind, firstOf_of_arePairs paired]
  cases (textsOf octets.latin pairs).head? <;> rfl

theorem ofHeader_joined_of_hasPairs (listed : headers.HasPairs pairs)
    (lookup : lookupName name = .ok octets) :
    Extractor.ofHeader (headers.joined name) =
      .ok (valueOfTexts (textsOf (Text.lowercase name) pairs)) := by
  obtain ⟨entries, rfl, paired⟩ := listed
  rw [joined, all, lookup, ← lookupName_eq_ok_iff.mp lookup]
  simp only [bind, Except.bind, allOf_of_arePairs paired, List.isEmpty_iff, valueOfTexts]
  split <;> rfl

end Values

/-! ## What texts come to -/

/-- Texts with commas between them are as long as they are together, and two more for each comma. -/
theorem length_intercalate {texts : List String} (some_text : texts ≠ []) :
    (", ".intercalate texts).length + 2 = (texts.map fun text => text.length + 2).sum := by
  induction texts with
  | nil => exact absurd rfl some_text
  | cons first rest ih =>
      cases rest with
      | nil => simp
      | cons second others =>
          have later := ih (List.cons_ne_nil second others)
          rw [String.intercalate_cons_cons, String.length_append, String.length_append,
            List.map_cons, List.sum_cons, ← later]
          have comma : ", ".length = 2 := rfl
          omega

/-- Of the texts of headers no part comes to the same as all of them. -/
theorem eq_of_valueOfTexts_eq {part whole : List String} (within : part.Sublist whole)
    (same : valueOfTexts part = valueOfTexts whole) : part = whole := by
  by_cases nothing : part = []
  · rw [nothing] at same ⊢
    exact (valueOfTexts_eq_null_iff.mp same.symm).symm
  · have something : whole ≠ [] := by
      rintro rfl
      exact nothing (List.sublist_nil.mp within)
    rw [valueOfTexts, valueOfTexts, if_neg nothing, if_neg something, Value.str.injEq] at same
    have lengths := (length_intercalate nothing).symm.trans
      ((congrArg (·.length + 2) same).trans (length_intercalate something))
    exact eq_of_sublist_of_sum_eq (fun _ => Nat.succ_pos _) within lengths

/-! ## Hops -/

/-- The first hop that proxies report: the first element of the first header for it. -/
def firstHop? (pairs : List (Octets × Octets)) : Option String :=
  (textsOf "x-forwarded-for" pairs).head?.bind Text.firstElement?

theorem firstHop?_ne_empty (pairs : List (Octets × Octets)) : firstHop? pairs ≠ some "" := by
  intro found
  obtain ⟨text, -, element⟩ := Option.bind_eq_some_iff.mp found
  rw [Text.firstElement?] at element
  split at element
  · cases element
  · next something =>
      exact something (by simpa using congrArg String.toList (Option.some.inj element))

theorem forwardedFor_of_hasPairs {headers : Headers} {pairs : List (Octets × Octets)}
    (listed : headers.HasPairs pairs) :
    headers.forwardedFor = .ok (Extractor.textOrNull (firstHop? pairs)) := by
  obtain ⟨octets, lookup⟩ : ∃ octets, lookupName "x-forwarded-for" = .ok octets := ⟨_, rfl⟩
  have lowered : Text.lowercase "x-forwarded-for" = "x-forwarded-for" := by decide +kernel
  have got := get_of_hasPairs listed lookup
  rw [lowered] at got
  rw [forwardedFor, got, firstHop?]
  cases (textsOf "x-forwarded-for" pairs).head? with
  | none => rfl
  | some text =>
      simp only [bind, Except.bind, Option.map_some, Option.getD_some, Option.bind_some,
        Text.firstElement?, ← Text.fst_halves, List.isEmpty_iff]
      split <;> rfl

end Headers
end RequestLog
