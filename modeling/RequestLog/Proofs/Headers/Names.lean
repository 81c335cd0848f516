import RequestLog.Proofs.Headers.Pairs
import RequestLog.Proofs.Token.Rendering

/-!
# Names of headers

A name of ASCII can stand in a token and be looked up, however it is spelt
(`IsName.exists_lookupName`).  A lookup lowers the name that is asked for, and the names of a list
stay as they were written.  So of the headers that have a name in any case (`textsInAnyCase`) it
finds those in lower case, and these come to the same as all of them just if there are no other ones
(`valueOfTexts_textsOf_eq_iff`).
-/

namespace RequestLog

namespace Headers

/-! ## Spellings of a name -/

/-- A name of ASCII that can stand between brackets by itself. -/
structure IsName (name : String) : Prop extends Token.IsArgument name where
  /-- The name is not empty. -/
  ne_empty : name ≠ ""
  /-- It is of ASCII. -/
  ascii : ∀ c ∈ name.toList, c.toNat < 128

namespace IsName

variable {name spelled : String}

theorem lowercase_eq (named : IsName name) :
    Text.lowercase name = String.ofList (name.toList.map Char.toLower) := by
  rw [Text.lowercase, Text.lower, Text.lowerFrom_of_ascii named.ascii]

/-- Changing the case of its letters leaves a name with the same lower case. -/
theorem lowercase_eq_of_map_toLower (named : IsName name)
    (respelled : spelled.toList.map Char.toLower = name.toList.map Char.toLower) :
    Text.lowercase spelled = Text.lowercase name := by
  have ascii : ∀ c ∈ spelled.toList, c.toNat < 128 := by
    intro c within
    by_contra beyond
    have lowered := List.mem_map_of_mem (f := Char.toLower) within
    rw [respelled] at lowered
    obtain ⟨d, present, same⟩ := List.mem_map.mp lowered
    have small := Text.toNat_toLower_lt (named.ascii d present)
    rw [same, Text.toLower_of_beyond (Nat.le_of_not_lt beyond)] at small
    exact beyond small
  rw [Text.lowercase, Text.lower, Text.lowerFrom_of_ascii ascii, respelled, named.lowercase_eq]

/-- However it is spelt, a name can stand between brackets by itself. -/
theorem isArgument_of_lowercase_eq (named : IsName name)
    (respelled : Text.lowercase spelled = Text.lowercase name) :
    Token.IsArgument spelled ∧ spelled ≠ "" := by
  have not_mem {mark : Char} (ascii : mark.toNat < 128) (mark_alone : mark.isAlpha = false)
      (absent : mark ∉ name.toList) : mark ∉ spelled.toList := by
    rw [← Text.mem_lowercase_iff ascii mark_alone, respelled,
      Text.mem_lowercase_iff ascii mark_alone]
    exact absent
  refine ⟨⟨not_mem (by decide) rfl named.comma_not_mem,
    not_mem (by decide) rfl named.newline_not_mem, ?_⟩, ?_⟩
  · have lowered := named.trimmed.map_toLower
    rw [named.lowercase_eq] at respelled
    rw [← String.toList_ofList (l := name.toList.map Char.toLower), ← respelled, Text.lowercase,
      String.toList_ofList] at lowered
    exact Text.isTrimmed_of_lowerFrom lowered
  · rintro rfl
    exact Text.lowercase_ne_empty named.ne_empty respelled.symm

/-- However it is spelt, a name can be looked up. -/
theorem exists_lookupName (named : IsName name)
    (respelled : Text.lowercase spelled = Text.lowercase name) :
    ∃ octets, lookupName spelled = .ok octets := by
  have small : ∀ c ∈ (Text.lowercase spelled).toList, c.toNat < 256 := by
    intro c within
    rw [respelled, named.lowercase_eq, String.toList_ofList] at within
    obtain ⟨d, present, rfl⟩ := List.mem_map.mp within
    have ascii := Text.toNat_toLower_lt (named.ascii d present)
    omega
  obtain ⟨octets, latin⟩ := Octets.exists_latin_eq small
  exact ⟨octets, lookupName_eq_ok_iff.mpr latin⟩

end IsName

/-! ## Names in any case -/

/-- The raw name is the name, but perhaps for the case of letters. -/
def IsCaseOf (raw : Octets) (name : String) : Prop :=
  raw.latin.toList.map Char.toLower = name.toList.map Char.toLower

instance (raw : Octets) (name : String) : Decidable (IsCaseOf raw name) :=
  inferInstanceAs (Decidable (_ = _))

/-- The texts of the headers with a name in any case, in order. -/
def textsInAnyCase (name : String) (pairs : List (Octets × Octets)) : List String :=
  (pairs.filter fun pair => IsCaseOf pair.1 name).map fun pair => pair.2.latin

/-- Every header with the name in any case has it in lower case. -/
def IsLowerIn (name : String) (pairs : List (Octets × Octets)) : Prop :=
  ∀ pair ∈ pairs, IsCaseOf pair.1 name → pair.1.latin = Text.lowercase name

section Names

variable {name : String} {pairs : List (Octets × Octets)}

theorem isCaseOf_of_lowercase (named : IsName name) {raw : Octets}
    (same : raw.latin = Text.lowercase name) : IsCaseOf raw name := by
  rw [IsCaseOf, same, named.lowercase_eq, String.toList_ofList, List.map_map]
  exact List.map_congr_left fun c _ => Char.toLower_toLower_eq_toLower c

theorem filter_sublist (named : IsName name) :
    (pairs.filter fun pair => pair.1.latin = Text.lowercase name).Sublist
      (pairs.filter fun pair => IsCaseOf pair.1 name) := by
  refine List.monotone_filter_right pairs fun pair found => ?_
  exact decide_eq_true (isCaseOf_of_lowercase named (of_decide_eq_true found))

theorem textsOf_sublist (named : IsName name) :
    (textsOf (Text.lowercase name) pairs).Sublist (textsInAnyCase name pairs) :=
  (filter_sublist named).map _

/-- The headers with a name in lower case come to the same as those with it in any case just if
there are no other ones. -/
theorem valueOfTexts_textsOf_eq_iff (named : IsName name) :
    valueOfTexts (textsOf (Text.lowercase name) pairs) = valueOfTexts (textsInAnyCase name pairs) ↔
      IsLowerIn name pairs := by
  constructor
  · intro same pair present cased
    have lengths := congrArg List.length (eq_of_valueOfTexts_eq (textsOf_sublist named) same)
    rw [textsOf, textsInAnyCase, List.length_map, List.length_map] at lengths
    have all_lower := (filter_sublist named).eq_of_length lengths
    have found : pair ∈ pairs.filter fun pair => IsCaseOf pair.1 name :=
      List.mem_filter.mpr ⟨present, decide_eq_true cased⟩
    rw [← all_lower, List.mem_filter] at found
    exact of_decide_eq_true found.2
  · intro lower
    rw [textsOf, textsInAnyCase]
    refine congrArg _ (congrArg _ (List.filter_congr fun pair present => ?_))
    exact decide_eq_decide.mpr
      ⟨fun same => isCaseOf_of_lowercase named same, fun cased => lower pair present cased⟩

end Names

/-- The headers are the same, but perhaps for the case of letters in their names. -/
def Recased (left right : List (Octets × Octets)) : Prop :=
  List.Forall₂ (fun pair other => pair.2 = other.2 ∧
    pair.1.latin.toList.map Char.toLower = other.1.latin.toList.map Char.toLower) left right

theorem Recased.textsInAnyCase_eq {left right : List (Octets × Octets)}
    (recased : Recased left right) (name : String) :
    textsInAnyCase name left = textsInAnyCase name right := by
  induction recased with
  | nil => rfl
  | @cons pair other left right same recased ih =>
      have cased : IsCaseOf pair.1 name ↔ IsCaseOf other.1 name := by
        rw [IsCaseOf, IsCaseOf, same.2]
      rw [textsInAnyCase, textsInAnyCase] at ih ⊢
      rw [List.filter_cons, List.filter_cons]
      by_cases found : IsCaseOf pair.1 name
      · have found_other := cased.mp found
        simp only [found, found_other, decide_true, ↓reduceIte, List.map_cons, ih, same.1]
      · have not_found := mt cased.mpr found
        simp only [found, not_found, decide_false, Bool.false_eq_true, ↓reduceIte, ih]

section Recasing

variable {name : String} {pairs : List (Octets × Octets)}

theorem toNat_toLower_lt_of_latin {c : Char} (small : c.toNat < 256) : c.toLower.toNat < 256 := by
  by_cases ascii : c.toNat < 128
  · exact (Text.toNat_toLower_lt ascii).trans (by decide)
  · rwa [Text.toLower_of_beyond (Nat.le_of_not_lt ascii)]

theorem toNat_toUpper_lt_of_latin {c : Char} (small : c.toNat < 256) : c.toUpper.toNat < 256 := by
  by_cases lower : c.isLower = true
  · have valid : (c.toNat - 32).isValidChar := Or.inl (by omega)
    rw [Char.toUpper_eq_of_isLower lower, Char.toNat_ofNat, if_pos valid]
    omega
  · rwa [Char.toUpper_eq_of_not_isLower lower]

/-- The raw names can be written in another case, as long as that stays within Latin. -/
theorem exists_recased {fold : Char → Char} (small : ∀ c, c.toNat < 256 → (fold c).toNat < 256)
    (folds : ∀ c, (fold c).toLower = c.toLower) (pairs : List (Octets × Octets)) :
    ∃ others, Recased pairs others ∧
      others.map (fun other => other.1.latin.toList) =
        pairs.map fun pair => pair.1.latin.toList.map fold := by
  induction pairs with
  | nil => exact ⟨[], .nil, rfl⟩
  | cons pair rest ih =>
      obtain ⟨others, recased, names⟩ := ih
      have within : ∀ c ∈ (String.ofList (pair.1.latin.toList.map fold)).toList, c.toNat < 256 := by
        intro c present
        rw [String.toList_ofList] at present
        obtain ⟨d, inside, rfl⟩ := List.mem_map.mp present
        exact small d (Octets.toNat_lt_of_mem_latin inside)
      obtain ⟨raw, latin⟩ := Octets.exists_latin_eq within
      have written : raw.latin.toList = pair.1.latin.toList.map fold := by
        rw [latin, String.toList_ofList]
      refine ⟨(raw, pair.2) :: others, .cons ⟨rfl, ?_⟩ recased, ?_⟩
      · rw [written, List.map_map]
        exact List.map_congr_left fun c _ => (folds c).symm
      · rw [List.map_cons, List.map_cons, written, names]

/-- A name without letters is written in one way only. -/
theorem isLowerIn_of_letterless (named : IsName name)
    (letterless : ∀ c ∈ name.toList, c.isAlpha = false) : IsLowerIn name pairs := by
  intro pair _ cased
  have name_stays : name.toList.map Char.toLower = name.toList :=
    (List.map_congr_left fun c within =>
      (Text.toLower_eq_iff (letterless c within) c).mpr rfl).trans (List.map_id _)
  rw [IsCaseOf, name_stays] at cased
  have raw_stays : pair.1.latin.toList.map Char.toLower = pair.1.latin.toList := by
    refine (List.map_congr_left fun c within => ?_).trans (List.map_id _)
    have no_letter := letterless c.toLower (cased ▸ List.mem_map_of_mem within)
    exact ((Text.toLower_eq_iff no_letter c).mp rfl).symm
  rw [named.lowercase_eq, name_stays, ← cased, raw_stays, String.ofList_toList]

/-- In lower case, a header with the name in any case is found. -/
theorem textsOf_ne_nil_of_lowered (named : IsName name)
    (some_header : textsInAnyCase name pairs ≠ [])
    {found : List (Octets × Octets)} (lowered : found.map (fun pair => pair.1.latin.toList) =
      pairs.map fun pair => pair.1.latin.toList.map Char.toLower) :
    textsOf (Text.lowercase name) found ≠ [] := by
  intro nothing
  obtain ⟨text, present⟩ := List.exists_mem_of_ne_nil _ some_header
  obtain ⟨pair, listed, -⟩ := List.mem_map.mp present
  obtain ⟨listed, same⟩ := List.mem_filter.mp listed
  have cased : IsCaseOf pair.1 name := of_decide_eq_true same
  have written := List.mem_map_of_mem (f := fun pair => pair.1.latin.toList.map Char.toLower) listed
  rw [← lowered] at written
  obtain ⟨other, listed_other, other_written⟩ := List.mem_map.mp written
  apply textsOf_eq_nil_iff.mp nothing other listed_other
  rw [named.lowercase_eq, ← cased, ← other_written, String.ofList_toList]

/-- In upper case, no header with a name that has letters is found. -/
theorem textsOf_eq_nil_of_raised (named : IsName name) {c : Char} (within : c ∈ name.toList)
    (letter : c.isAlpha = true) {hidden : List (Octets × Octets)}
    (raised : hidden.map (fun pair => pair.1.latin.toList) =
      pairs.map fun pair => pair.1.latin.toList.map Char.toUpper) :
    textsOf (Text.lowercase name) hidden = [] := by
  rw [textsOf_eq_nil_iff]
  intro other listed same
  have written := List.mem_map_of_mem (f := fun pair => pair.1.latin.toList) listed
  rw [raised] at written
  obtain ⟨pair, -, upper⟩ := List.mem_map.mp written
  have lowered : c.toLower ∈ pair.1.latin.toList.map Char.toUpper := by
    rw [upper, same, named.lowercase_eq, String.toList_ofList]
    exact List.mem_map_of_mem within
  -- The letter would be in lower case, as the name looked for is, and in no lower case, as it is
  -- raised.
  obtain ⟨d, -, image⟩ := List.mem_map.mp lowered
  have no_lower := Char.isLower_toUpper_eq_false d
  rw [image, Char.isLower_toLower_eq_isAlpha, letter] at no_lower
  cases no_lower

/-- The case of raw names makes no difference to what is found just if there is no header with the
name in any case, or if the name has no letters. -/
theorem valueOfTexts_recased_iff (named : IsName name) :
    (∀ others, Recased pairs others → valueOfTexts (textsOf (Text.lowercase name) others) =
        valueOfTexts (textsOf (Text.lowercase name) pairs)) ↔
      textsInAnyCase name pairs = [] ∨ ∀ c ∈ name.toList, c.isAlpha = false := by
  constructor
  · intro same
    by_contra neither
    obtain ⟨some_header, lettered⟩ := not_or.mp neither
    obtain ⟨c, within, letter⟩ : ∃ c ∈ name.toList, c.isAlpha = true := by simpa using lettered
    obtain ⟨found, recased_found, lowered⟩ :=
      exists_recased (fun _ => toNat_toLower_lt_of_latin) Char.toLower_toLower_eq_toLower pairs
    obtain ⟨hidden, recased_hidden, raised⟩ :=
      exists_recased (fun _ => toNat_toUpper_lt_of_latin) Char.toLower_toUpper_eq_toLower pairs
    have alike := (same found recased_found).trans (same hidden recased_hidden).symm
    rw [textsOf_eq_nil_of_raised named within letter raised] at alike
    exact textsOf_ne_nil_of_lowered named some_header lowered (valueOfTexts_eq_null_iff.mp alike)
  · rintro (nothing | letterless) others recased
    · have unnamed {listed : List (Octets × Octets)} (absent : textsInAnyCase name listed = []) :
          textsOf (Text.lowercase name) listed = [] :=
        List.sublist_nil.mp (absent ▸ textsOf_sublist named)
      rw [unnamed nothing, unnamed (recased.textsInAnyCase_eq name ▸ nothing)]
    · rw [(valueOfTexts_textsOf_eq_iff named).mpr (isLowerIn_of_letterless named letterless),
        (valueOfTexts_textsOf_eq_iff named).mpr (isLowerIn_of_letterless named letterless),
        recased.textsInAnyCase_eq]

end Recasing

end Headers
end RequestLog
