import Mathlib.Data.String.Basic
import RequestLog.Proofs.Json.RoundTrip

/-!
# Texts within JSON texts

What a JSON text writes is a text only if there are quotes around it.  Then it takes fewer octets
than the JSON text does: every character takes at least its own octets, whether it is escaped or
not, and the quotes take two more.
-/

namespace RequestLog

theorem Octets.length_of_text? {octets : Octets} {text : String}
    (encoded : octets.text? = some text) :
    octets.length = text.utf8ByteSize := by
  rw [text?, String.fromUTF8?] at encoded
  split at encoded
  · rw [← Option.some.inj encoded]
    rfl
  · cases encoded

namespace Json

open String (utf8Len)

/-! ## Octets of code points -/

theorem length_octetsOf_ofNat {code : Nat} (paired : (isHighUnit code || isLowUnit code) = false) :
    (octetsOf code).length = (Char.ofNat code).utf8Size := by
  rw [octetsOf, paired]
  exact String.utf8ByteSize_singleton

theorem length_octetsOf_toNat (c : Char) : (octetsOf c.toNat).length = c.utf8Size := by
  obtain ⟨not_high, not_low⟩ := not_isHighUnit_or_isLowUnit c
  rw [length_octetsOf_ofNat, Char.ofNat_toNat]
  rw [not_high, not_low, Bool.or_false]

theorem length_octetsOf_le (code : Nat) : (octetsOf code).length ≤ 4 := by
  cases paired : isHighUnit code || isLowUnit code with
  | true => simp [octetsOf, paired]
  | false =>
      rw [length_octetsOf_ofNat paired]
      exact Char.utf8Size_le_four _

/-- The octets of a text, or octets themselves. -/
def octets? : Value → Option Octets
  | .str text => some (Octets.ofText text)
  | .bytes octets => some octets
  | _ => none

theorem length_flatMap_octetsOf {codes : List Nat}
    (paired : ∀ code ∈ codes, (isHighUnit code || isLowUnit code) = false) :
    (codes.flatMap octetsOf).length = utf8Len (codes.map Char.ofNat) := by
  induction codes with
  | nil => rfl
  | cons code rest ih =>
      rw [List.flatMap_cons, List.length_append, ih fun other within => paired other
        (List.mem_cons_of_mem _ within), length_octetsOf_ofNat (paired code List.mem_cons_self),
        List.map_cons, String.utf8Len_cons, Nat.add_comm]

/-- A text has the octets of its code points. -/
theorem octets?_textOf (codes : List Nat) :
    ∃ octets, octets? (textOf codes) = some octets ∧
      octets.length = (codes.flatMap octetsOf).length := by
  rw [textOf]
  split
  · exact ⟨_, rfl, rfl⟩
  · next paired =>
      rw [List.any_eq_true] at paired
      refine ⟨_, rfl, ?_⟩
      rw [length_flatMap_octetsOf fun code within => ?_, ← String.utf8ByteSize_ofList]
      · rfl
      · exact Bool.eq_false_iff.mpr fun alone => paired ⟨code, within, alone⟩

/-! ## Reading uses octets up -/

theorem utf8Len_lowUnitAhead? {text : List Char} {low : Nat} {rest : List Char}
    (read : lowUnitAhead? text = some (low, rest)) : utf8Len rest ≤ utf8Len text := by
  unfold lowUnitAhead? at read
  split at read
  · next a b c d rest =>
      cases escape : unit? a b c d with
      | none => simp [escape] at read
      | some unit =>
          simp only [escape, Option.ite_none_right_eq_some, Option.some.injEq, Prod.mk.injEq]
            at read
          rw [← read.2.2]
          apply String.utf8Len_le_of_suffix
          exact ⟨['\\', 'u', a, b, c, d], rfl⟩
  · cases read

theorem utf8Size_escaped? {letter meant : Char} (escape : escaped? letter = some meant) :
    meant.utf8Size = 1 := by
  unfold escaped? at escape
  split at escape <;> first | (rw [← Option.some.inj escape]; rfl) | cases escape

/-- A character of a text takes at least the octets of its code point. -/
theorem octets_readCode?_le {text : List Char} {code : Nat} {rest : List Char}
    (read : readCode? text = some (code, rest)) :
    (octetsOf code).length + utf8Len rest ≤ utf8Len text := by
  unfold readCode? at read
  split at read
  · next a b c d behind =>
      have few := length_octetsOf_le code
      have shorter : utf8Len rest ≤ utf8Len behind := by
        split at read
        · cases read
        · split at read
          · next low after ahead =>
              obtain ⟨-, rfl⟩ := Prod.mk.inj (Option.some.inj read)
              split at ahead
              · exact utf8Len_lowUnitAhead? ahead
              · cases ahead
          · rw [(Prod.mk.inj (Option.some.inj read)).2]
      have four_digits := a.utf8Size_pos
      have : 0 < b.utf8Size ∧ 0 < c.utf8Size ∧ 0 < d.utf8Size :=
        ⟨b.utf8Size_pos, c.utf8Size_pos, d.utf8Size_pos⟩
      simp only [String.utf8Len_cons]
      omega
  · next letter behind _ =>
      obtain ⟨meant, escape, same⟩ := Option.map_eq_some_iff.mp read
      obtain ⟨rfl, rfl⟩ := Prod.mk.inj same
      have letter_octets := letter.utf8Size_pos
      rw [length_octetsOf_toNat, utf8Size_escaped? escape]
      simp only [String.utf8Len_cons]
      omega
  · split at read
    · cases read
    · obtain ⟨rfl, rfl⟩ := Prod.mk.inj (Option.some.inj read)
      rw [length_octetsOf_toNat, String.utf8Len_cons, Nat.add_comm]
  · cases read

/-- Behind the opening quote there are the characters of the text, the closing quote and the
rest. -/
theorem octets_readCodes?_lt {fuel : Nat} {text : List Char} {codes : List Nat} {rest : List Char}
    (read : readCodes? fuel text = some (codes, rest)) :
    (codes.flatMap octetsOf).length + utf8Len rest < utf8Len text := by
  induction fuel generalizing text codes rest with
  | zero => cases read
  | succ fuel ih =>
      cases text with
      | nil => cases read
      | cons first others =>
          by_cases quote : first = '"'
          · subst quote
            obtain ⟨rfl, rfl⟩ := Prod.mk.inj (Option.some.inj read)
            simp only [List.flatMap_nil, List.length_nil, String.utf8Len_cons]
            have closing := Char.utf8Size_pos '"'
            omega
          · rw [readCodes?_succ_cons fuel quote] at read
            simp only [Option.bind_eq_bind, Option.bind_eq_some_iff, Option.pure_def] at read
            obtain ⟨⟨code, after⟩, found, ⟨more, final⟩, more_found, same⟩ := read
            obtain ⟨rfl, rfl⟩ := Prod.mk.inj (Option.some.inj same)
            have taken := octets_readCode?_le found
            have more_taken : (more.flatMap octetsOf).length + utf8Len final < utf8Len after :=
              ih more_found
            change (octetsOf code ++ more.flatMap octetsOf).length + utf8Len final < _
            rw [List.length_append]
            omega

/-- A text has fewer octets than stand behind the opening quote. -/
theorem octets_readText?_lt {text : List Char} {value : Value} {rest : List Char}
    (read : readText? text = some (value, rest)) {octets : Octets}
    (encoded : octets? value = some octets) : octets.length < utf8Len text := by
  obtain ⟨⟨codes, after⟩, found, same⟩ := Option.map_eq_some_iff.mp read
  obtain ⟨rfl, -⟩ := Prod.mk.inj same
  have taken := octets_readCodes?_lt found
  obtain ⟨others, also_encoded, as_long⟩ := octets?_textOf codes
  obtain rfl := Option.some.inj (encoded.symm.trans also_encoded)
  omega

/-! ## Words and numbers are no texts -/

theorem octets?_readMagnitude? {negative : Bool} {text : List Char} {value : Value}
    {rest : List Char} (read : readMagnitude? negative text = some (value, rest)) :
    octets? value = none := by
  simp only [readMagnitude?, Option.bind_eq_bind, Option.bind_eq_some_iff, Option.pure_def] at read
  obtain ⟨⟨whole, afterWhole⟩, -, read⟩ := read
  split at read
  · split at read
    · cases read
    · rw [← (Prod.mk.inj (Option.some.inj read)).1]
      rfl
  · rw [← (Prod.mk.inj (Option.some.inj read)).1]
    rfl

theorem octets?_readScalar? {text : List Char} {value : Value} {rest : List Char}
    (read : readScalar? text = some (value, rest)) : octets? value = none := by
  simp only [readScalar?, Option.orElse_eq_orElse, Option.orElse_eq_or] at read
  rcases Option.or_eq_some_iff.mp read with word | ⟨-, number⟩
  · obtain ⟨entry, listed, found⟩ := List.exists_of_findSome?_eq_some word
    obtain ⟨after, -, same⟩ := Option.map_eq_some_iff.mp found
    have no_texts : ∀ entry ∈ words, octets? entry.2 = none := by simp [words, octets?]
    rw [← (Prod.mk.inj same).1]
    exact no_texts entry listed
  · split at number
    · exact octets?_readMagnitude? number
    · exact octets?_readMagnitude? number

/-- Whatever writes a text takes more octets than the text. -/
theorem octets_readValue?_lt {fuel : Nat} {text : List Char} {value : Value} {rest : List Char}
    (read : readValue? fuel text = some (value, rest)) {octets : Octets}
    (encoded : octets? value = some octets) : octets.length < utf8Len text := by
  have skipped : utf8Len (skipSpace text) ≤ utf8Len text :=
    String.utf8Len_le_of_suffix (List.dropWhile_suffix _)
  cases fuel with
  | zero => cases read
  | succ fuel =>
      unfold readValue? at read
      split at read
      · next quoted found =>
          have shorter := octets_readText?_lt read encoded
          rw [found, String.utf8Len_cons] at skipped
          omega
      · split at read
        · cases read
          cases encoded
        · simp only [Option.bind_eq_bind, Option.bind_eq_some_iff, Option.pure_def] at read
          obtain ⟨_, -, same⟩ := read
          cases same
          cases encoded
      · split at read
        · cases read
          cases encoded
        · simp only [Option.bind_eq_bind, Option.bind_eq_some_iff, Option.pure_def] at read
          obtain ⟨_, -, same⟩ := read
          cases same
          cases encoded
      · rw [octets?_readScalar? read] at encoded
        cases encoded

/-- Whatever a JSON text writes has fewer octets than the JSON text, if it has octets. -/
theorem octets_read?_lt {text : String} {value : Value} (read : read? text = some value)
    {octets : Octets} (encoded : octets? value = some octets) :
    octets.length < text.utf8ByteSize := by
  rw [read?] at read
  split at read
  · next found_value rest found =>
      split at read
      · rw [Option.some.inj read] at found
        have shorter := octets_readValue?_lt found encoded
        rwa [← String.utf8ByteSize_ofList, String.ofList_toList] at shorter
      · cases read
  · cases read

/-- A text in quotes is read as the text. -/
theorem read?_writeText (text : String) :
    read? (String.ofList (writeText text)) = some (.str text) := by
  obtain ⟨behind, written, read⟩ := readText?_writeText text []
  rw [List.append_nil] at read
  have value_read : readValue? ((writeText text).length + 1) (writeText text) =
      some (.str text, []) := by
    rw [written]
    exact read
  rw [read?, String.toList_ofList, value_read]
  rfl

end Json
end RequestLog
