import Mathlib.Algebra.GroupWithZero.Nat
import Mathlib.Data.List.Basic
import RequestLog.Logging.Entry

/-!
# Plain text and line breaks

Plain text is printable ASCII: numbers, dates and the names of levels are.  Readers of text end a
line at one of ten characters, none of which is plain, and the line breaks of a text that is put
together are those of its parts.
-/

namespace RequestLog
namespace Text

/-- A printable character of ASCII. -/
def isPlain (c : Char) : Bool :=
  32 ≤ c.toNat && c.toNat < 127

/-- A character that ends a line. -/
def isLineBreak (c : Char) : Bool :=
  (10 ≤ c.toNat && c.toNat ≤ 13) || (28 ≤ c.toNat && c.toNat ≤ 30) || c.toNat == 133
    || c.toNat == 8232 || c.toNat == 8233

/-- All characters are printable ASCII. -/
def IsPlain (text : String) : Prop :=
  ∀ c ∈ text.toList, isPlain c = true

instance (text : String) : Decidable (IsPlain text) :=
  List.decidableBAll (fun c => isPlain c = true) text.toList

/-- How many line breaks a text holds. -/
def lineBreaks (text : String) : Nat :=
  text.toList.countP isLineBreak

theorem isLineBreak_of_isPlain {c : Char} (plain : isPlain c = true) : isLineBreak c = false := by
  simp only [isPlain, isLineBreak, Bool.and_eq_true, decide_eq_true_eq, Bool.or_eq_false_iff,
    Bool.and_eq_false_iff, decide_eq_false_iff_not, beq_eq_false_iff_ne] at plain ⊢
  omega

theorem lineBreaks_of_isPlain {text : String} (plain : IsPlain text) : lineBreaks text = 0 := by
  rw [lineBreaks, List.countP_eq_zero]
  intro c within
  rw [isLineBreak_of_isPlain (plain c within)]
  exact Bool.false_ne_true

theorem lineBreaks_append (front back : String) :
    lineBreaks (front ++ back) = lineBreaks front + lineBreaks back := by
  simp only [lineBreaks, String.toList_append, List.countP_append]

theorem lineBreaks_intercalate {separator : String} (unbroken : lineBreaks separator = 0)
    (parts : List String) :
    lineBreaks (separator.intercalate parts) = (parts.map lineBreaks).sum := by
  have counted : ∀ pieces : List (List Char),
      (separator.toList.intercalate pieces).countP isLineBreak =
        (pieces.map (List.countP isLineBreak)).sum := by
    intro pieces
    induction pieces with
    | nil => rfl
    | cons piece rest ih =>
        cases rest with
        | nil => simp
        | cons next others =>
            have none_between : separator.toList.countP isLineBreak = 0 := unbroken
            rw [List.intercalate_cons_cons, List.countP_append, List.countP_append, none_between,
              ih, Nat.add_zero, ← List.sum_cons, ← List.map_cons]
  rw [lineBreaks, String.toList_intercalate, counted, List.map_map]
  rfl

theorem isPlain_append {front back : String} :
    IsPlain (front ++ back) ↔ IsPlain front ∧ IsPlain back := by
  simp only [IsPlain, String.toList_append, List.forall_mem_append]

theorem isPlain_of_isDigit {c : Char} (digit : c.isDigit = true) : isPlain c = true := by
  simp only [Char.isDigit, isPlain, Bool.and_eq_true, decide_eq_true_eq, ge_iff_le,
    UInt32.le_iff_toNat_le] at digit ⊢
  have upper : c.toNat ≤ 57 := digit.2
  have lower : 48 ≤ c.toNat := digit.1
  omega

theorem isPlain_digitChars (n : Nat) : ∀ c ∈ Decimal.digitChars n, isPlain c = true :=
  fun _ within => isPlain_of_isDigit (Nat.isDigit_of_mem_toDigits (by decide) (by decide) within)

theorem isPlain_paddedText (width n : Nat) :
    ∀ c ∈ Decimal.paddedText width n, isPlain c = true := by
  intro c within
  rw [Decimal.paddedText, Decimal.padZeros, List.mem_append] at within
  rcases within with zero | digit
  · rw [List.eq_of_mem_replicate zero]
    decide
  · exact isPlain_digitChars n c digit

theorem isPlain_padded (width n : Nat) : IsPlain (Calendar.padded width n) := by
  intro c within
  rw [Calendar.padded, String.toList_ofList] at within
  exact isPlain_paddedText width n c within

theorem isPlain_toString_int (n : Int) : IsPlain (toString n) := by
  have plain_nat : ∀ m : Nat, IsPlain m.repr := by
    intro m c within
    rw [Nat.toList_repr] at within
    exact isPlain_digitChars m c within
  change IsPlain n.repr
  rw [Int.repr_eq_if]
  split
  · exact plain_nat _
  · exact isPlain_append.mpr ⟨by decide, plain_nat _⟩

theorem isPlain_getD {texts : List String} (plain : ∀ text ∈ texts, IsPlain text) (place : Nat) :
    IsPlain (texts.getD place "") := by
  rw [List.getD_eq_getElem?_getD]
  cases found : texts[place]? with
  | none => decide
  | some text => exact plain text (List.mem_of_getElem? found)

theorem isPlain_toLower {c : Char} (plain : isPlain c = true) : isPlain c.toLower = true := by
  have all : ∀ code : Fin 127, isPlain (Char.ofNat code) = true →
    isPlain (Char.ofNat code).toLower = true := by decide
  have small : c.toNat < 127 := by
    simp only [isPlain, Bool.and_eq_true, decide_eq_true_eq] at plain
    exact plain.2
  simpa only [Char.ofNat_toNat] using all ⟨c.toNat, small⟩ (by rwa [Char.ofNat_toNat])

theorem isPlain_lowerFrom (afterCased : Bool) {chars : List Char}
    (plain : ∀ c ∈ chars, isPlain c = true) :
    ∀ c ∈ lowerFrom afterCased chars, isPlain c = true := by
  induction chars generalizing afterCased with
  | nil => exact fun c within => by cases within
  | cons first rest ih =>
      obtain ⟨first_plain, rest_plain⟩ := List.forall_mem_cons.mp plain
      have small : first.toNat < 128 := by
        simp only [isPlain, Bool.and_eq_true, decide_eq_true_eq] at first_plain
        omega
      have no_sigma : first ≠ 'Σ' := by
        rintro rfl
        exact absurd small (by decide)
      simp only [lowerFrom, if_neg no_sigma, lowerChar, if_pos small, List.singleton_append]
      exact List.forall_mem_cons.mpr ⟨isPlain_toLower first_plain, ih _ rest_plain⟩

/-- Lower case of plain text is plain. -/
theorem isPlain_lowercase {text : String} (plain : IsPlain text) : IsPlain (lowercase text) := by
  rw [IsPlain, lowercase, String.toList_ofList]
  exact isPlain_lowerFrom false plain

end Text

namespace Instant

variable (instant : Instant)

theorem isPlain_timeText : Text.IsPlain instant.timeText := by
  simp only [timeText, Text.isPlain_append, Text.isPlain_padded, true_and, and_true]
  decide

theorem isPlain_sortableText : Text.IsPlain instant.sortableText := by
  simp only [sortableText, dateText, Text.isPlain_append, Text.isPlain_padded, isPlain_timeText,
    true_and, and_true]
  decide

theorem isPlain_webText : Text.IsPlain instant.webText := by
  have weekday : Text.IsPlain (Calendar.weekdayOf instant.days) := Text.isPlain_getD (by decide) _
  have month : Text.IsPlain (Calendar.monthNames.getD (instant.date.month - 1) "") :=
    Text.isPlain_getD (by decide) _
  simp only [webText, Text.isPlain_append, Text.isPlain_padded, isPlain_timeText, weekday, month,
    true_and, and_true]
  decide

end Instant

namespace Logging

/-- A level has a plain name. -/
theorem isPlain_levelLabel (level : Int) : Text.IsPlain (levelLabel level) := by
  have label_plain : ∀ severity : Severity, Text.IsPlain severity.label := by
    intro severity
    cases severity <;> decide
  have name_plain : Text.IsPlain (levelName level) := by
    unfold levelName
    split
    case h_9 =>
      exact Text.isPlain_append.mpr ⟨by decide, Text.isPlain_toString_int level⟩
    all_goals decide
  unfold levelLabel
  split
  · exact label_plain _
  · exact Text.isPlain_lowercase name_plain

end Logging
end RequestLog
