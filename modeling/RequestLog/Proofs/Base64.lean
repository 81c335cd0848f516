import Mathlib.Tactic.SplitIfs
import RequestLog.Base64
import RequestLog.Text.Blank

/-!
# Reading what is encoded

Octets that are encoded in Base64 are read back (`decode?_encode`).  Three octets are four
characters of the alphabet, which are read as a group of their own (`decodeFrom_group`); one or two
octets are left over at the end and end in padding.  Whatever is read is written in ASCII and
without blanks (`plain_of_decode?`).
-/

namespace RequestLog
namespace Base64

/-! ## Characters -/

/-- Every sextet has a character of its own, which is no padding. -/
theorem sextet?_sextetChar {sextet : Nat} (small : sextet < 64) :
    sextet? (sextetChar sextet) = some sextet ∧ sextetChar sextet ≠ '=' := by
  have all : ∀ value : Fin 64,
      sextet? (sextetChar value) = some value.val ∧ sextetChar value ≠ '=' := by
    decide +kernel
  exact all ⟨sextet, small⟩

/-- A character that has a sextet is one of ASCII. -/
theorem ascii_of_sextet? {c : Char} {sextet : Nat} (read : sextet? c = some sextet) :
    c.toNat < 128 := by
  rw [sextet?] at read
  split_ifs at read with upper lower digit plus slash
  · have below : c.toNat ≤ 90 := upper.2
    omega
  · have below : c.toNat ≤ 122 := lower.2
    omega
  · have below : c.toNat ≤ 57 := digit.2
    omega
  · rw [plus]
    decide
  · rw [slash]
    decide

/-- A character of the alphabet, or padding. -/
def isCharacter (c : Char) : Bool :=
  c == '=' || (sextet? c).isSome

/-- The characters are all of ASCII, and none of them is a blank. -/
theorem plain_of_isCharacter {c : Char} (character : isCharacter c = true) :
    c.toNat < 128 ∧ Text.isBlank c = false := by
  have small : c.toNat < 128 := by
    rw [isCharacter, Bool.or_eq_true, beq_iff_eq] at character
    rcases character with rfl | some_sextet
    · decide
    · obtain ⟨sextet, read⟩ := Option.isSome_iff_exists.mp some_sextet
      exact ascii_of_sextet? read
  have all : ∀ code : Fin 128, isCharacter (Char.ofNat code) = true →
      Text.isBlank (Char.ofNat code) = false := by decide +kernel
  have blankless := all ⟨c.toNat, small⟩
  rw [Char.ofNat_toNat] at blankless
  exact ⟨small, blankless character⟩

/-! ## Groups -/

/-- A sextet that does not complete its group joins the group. -/
theorem decodeFrom_sextet {group : List Nat} (few : group.length < 3) (pads : Nat) {sextet : Nat}
    (small : sextet < 64) (rest : List Char) :
    decodeFrom group pads false (sextetChar sextet :: rest) =
      decodeFrom (group ++ [sextet]) 0 false rest := by
  obtain ⟨read, no_padding⟩ := sextet?_sextetChar small
  simp only [decodeFrom, no_padding, read, few, ↓reduceIte, Bool.false_eq_true]

/-- Four sextets are a group, and the next one begins behind them. -/
theorem decodeFrom_group {a b c d : Nat} (small : a < 64 ∧ b < 64 ∧ c < 64 ∧ d < 64)
    (rest : List Char) :
    decodeFrom [] 0 false
        (sextetChar a :: sextetChar b :: sextetChar c :: sextetChar d :: rest) =
      (decodeFrom [] 0 false rest).map (octetsOf [a, b, c, d] ++ ·) := by
  obtain ⟨small_a, small_b, small_c, small_d⟩ := small
  obtain ⟨read, no_padding⟩ := sextet?_sextetChar small_d
  rw [decodeFrom_sextet (by decide) 0 small_a, decodeFrom_sextet (by simp) 0 small_b,
    decodeFrom_sextet (by simp) 0 small_c]
  simp only [decodeFrom, no_padding, read, ↓reduceIte, Bool.false_eq_true]
  rfl

/-- Two sextets and the padding that completes their group are the last octet. -/
theorem decodeFrom_last_one {a b : Nat} (small : a < 64 ∧ b < 64) :
    decodeFrom [] 0 false [sextetChar a, sextetChar b, '=', '='] = some (octetsOf [a, b]) := by
  rw [decodeFrom_sextet (by decide) 0 small.1, decodeFrom_sextet (by simp) 0 small.2]
  rfl

/-- Three sextets and the padding that completes their group are the last two octets. -/
theorem decodeFrom_last_two {a b c : Nat} (small : a < 64 ∧ b < 64 ∧ c < 64) :
    decodeFrom [] 0 false [sextetChar a, sextetChar b, sextetChar c, '='] =
      some (octetsOf [a, b, c]) := by
  rw [decodeFrom_sextet (by decide) 0 small.1, decodeFrom_sextet (by simp) 0 small.2.1,
    decodeFrom_sextet (by simp) 0 small.2.2]
  rfl

/-- The sextets of an octet put the octet together again. -/
theorem octetsOf_one (a : UInt8) : octetsOf [a.toNat / 4, a.toNat % 4 * 16] = [a] := by
  have first : a.toNat / 4 * 4 + a.toNat % 4 * 16 / 16 = a.toNat := by omega
  rw [octetsOf, first, UInt8.ofNat_toNat]

theorem octetsOf_two (a b : UInt8) :
    octetsOf [a.toNat / 4, a.toNat % 4 * 16 + b.toNat / 16, b.toNat % 16 * 4] = [a, b] := by
  have bound := b.toNat_lt
  have first : a.toNat / 4 * 4 + (a.toNat % 4 * 16 + b.toNat / 16) / 16 = a.toNat := by omega
  have second : (a.toNat % 4 * 16 + b.toNat / 16) % 16 * 16 + b.toNat % 16 * 4 / 4 = b.toNat := by
    omega
  rw [octetsOf, first, second, UInt8.ofNat_toNat, UInt8.ofNat_toNat]

theorem octetsOf_three (a b c : UInt8) :
    octetsOf [a.toNat / 4, a.toNat % 4 * 16 + b.toNat / 16, b.toNat % 16 * 4 + c.toNat / 64,
      c.toNat % 64] = [a, b, c] := by
  have bound := b.toNat_lt
  have bound' := c.toNat_lt
  have first : a.toNat / 4 * 4 + (a.toNat % 4 * 16 + b.toNat / 16) / 16 = a.toNat := by omega
  have second : (a.toNat % 4 * 16 + b.toNat / 16) % 16 * 16 +
      (b.toNat % 16 * 4 + c.toNat / 64) / 4 = b.toNat := by omega
  have third : (b.toNat % 16 * 4 + c.toNat / 64) % 4 * 64 + c.toNat % 64 = c.toNat := by omega
  rw [octetsOf, first, second, third, UInt8.ofNat_toNat, UInt8.ofNat_toNat, UInt8.ofNat_toNat]

/-! ## Encoding and decoding -/

theorem decodeFrom_encode (octets : Octets) :
    decodeFrom [] 0 false (encode octets) = some octets := by
  induction octets using encode.induct with
  | case1 => rfl
  | case2 a =>
      have bound := a.toNat_lt
      rw [encode, decodeFrom_last_one (by omega), octetsOf_one]
  | case3 a b =>
      have bound := a.toNat_lt
      have bound' := b.toNat_lt
      rw [encode, decodeFrom_last_two (by omega), octetsOf_two]
  | case4 a b c rest ih =>
      have bound := a.toNat_lt
      have bound' := b.toNat_lt
      have bound'' := c.toNat_lt
      rw [encode, decodeFrom_group (by omega), ih, octetsOf_three]
      rfl

/-- What is encoded does not begin with padding. -/
theorem head?_encode (octets : Octets) : (encode octets).head? ≠ some '=' := by
  intro padding
  cases octets with
  | nil => cases padding
  | cons a rest =>
      have bound := a.toNat_lt
      have first : (encode (a :: rest)).head? = some (sextetChar (a.toNat / 4)) := by
        unfold encode
        split <;> simp_all
      rw [first] at padding
      exact (sextet?_sextetChar (show a.toNat / 4 < 64 by omega)).2 (Option.some.inj padding)

/-- Octets that are encoded are read back. -/
theorem decode?_encode (octets : Octets) : decode? (encode octets) = some octets := by
  rw [decode?, if_neg (head?_encode octets), decodeFrom_encode]

/-- Only characters of the alphabet and padding are read. -/
theorem isCharacter_of_decodeFrom {group : List Nat} {pads : Nat} {padded : Bool} {text : List Char}
    {octets : Octets} (read : decodeFrom group pads padded text = some octets) :
    ∀ c ∈ text, isCharacter c = true := by
  induction text generalizing group pads padded octets with
  | nil => simp
  | cons first rest ih =>
      rw [List.forall_mem_cons, isCharacter, Bool.or_eq_true, beq_iff_eq]
      rw [decodeFrom] at read
      split at read
      · next padding =>
          refine ⟨Or.inl padding, ?_⟩
          split_ifs at read with few incomplete last
          · exact ih read
          · exact ih read
          · simp [List.isEmpty_iff.mp last]
      · split at read
        · cases read
        · next sextet found =>
            refine ⟨Or.inr (by rw [found, Option.isSome_some]), ?_⟩
            split_ifs at read
            · exact ih read
            · obtain ⟨others, read, -⟩ := Option.map_eq_some_iff.mp read
              exact ih read

/-- Whatever is read is written in ASCII and without blanks. -/
theorem plain_of_decode? {text : List Char} {octets : Octets} (read : decode? text = some octets) :
    ∀ c ∈ text, c.toNat < 128 ∧ Text.isBlank c = false := by
  rw [decode?] at read
  split at read
  · cases read
  · exact fun c within => plain_of_isCharacter (isCharacter_of_decodeFrom read c within)

end Base64
end RequestLog
