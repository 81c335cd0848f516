import Mathlib.Data.List.Nodup
import Mathlib.Data.String.Basic
import RequestLog.Decimal.Digits
import RequestLog.Text.Digit

/-!
# Texts in columns

A text of a fixed shape is made of columns: marks that are always the same, numbers with a fixed
number of digits, and names out of a list of names of one length.  It is read back column by column
(`read?_of_shows`), and texts of one shape without names are in the order of their numbers
(`lt_of_shows`).
-/

namespace RequestLog

/-- Of two texts of one length the smaller one stays so, whatever is put behind them. -/
theorem append_lt_append_of_lt {front other : List Char} (less : front < other)
    (same : front.length = other.length) (back rest : List Char) :
    front ++ back < other ++ rest := by
  induction front generalizing other with
  | nil =>
      rw [List.eq_nil_of_length_eq_zero same.symm] at less
      cases less
  | cons c front ih =>
      cases other with
      | nil => cases same
      | cons d other =>
          rw [List.cons_append, List.cons_append, List.cons_lt_cons_iff]
          rcases List.cons_lt_cons_iff.mp less with smaller | ⟨rfl, later⟩
          · exact Or.inl smaller
          · exact Or.inr ⟨rfl, ih later (Nat.succ.inj same)⟩

namespace Decimal

/-- The last digits of a number, as many as there are places. -/
def lastDigits : Nat → Nat → List Char
  | 0, _ => []
  | places + 1, n => lastDigits places (n / 10) ++ [Nat.digitChar (n % 10)]

@[simp]
theorem length_lastDigits (places n : Nat) : (lastDigits places n).length = places := by
  induction places generalizing n with
  | zero => rfl
  | succ places ih => rw [lastDigits, List.length_append, ih, List.length_singleton]

theorem lastDigits_zero (places : Nat) : lastDigits places 0 = List.replicate places '0' := by
  induction places with
  | zero => rfl
  | succ places ih => rw [lastDigits, Nat.zero_div, ih, List.replicate_succ']; rfl

/-- A number that fits into the places is padded to its last digits. -/
theorem paddedText_eq_lastDigits {places n : Nat} (fits : n < 10 ^ (places + 1)) :
    paddedText (places + 1) n = lastDigits (places + 1) n := by
  induction places generalizing n with
  | zero =>
      have digit : n < 10 := by simpa using fits
      rw [paddedText, digitChars, Nat.toDigits_of_lt_base digit, lastDigits, Nat.mod_eq_of_lt digit]
      rfl
  | succ places ih =>
      by_cases digit : n < 10
      · have alone : n / 10 = 0 := Nat.div_eq_of_lt digit
        rw [paddedText, digitChars, Nat.toDigits_of_lt_base digit, lastDigits, alone,
          lastDigits_zero, Nat.mod_eq_of_lt digit]
        rfl
      · have fewer : n / 10 < 10 ^ (places + 1) := by
          rw [Nat.pow_succ] at fits
          omega
        rw [lastDigits, ← ih fewer, paddedText, paddedText, digitChars, digitChars,
          Nat.toDigits_of_base_le (by decide) (Nat.le_of_not_lt digit), padZeros, padZeros,
          List.length_append, List.length_singleton, Nat.add_sub_add_right, List.append_assoc]

theorem digitChar_lt {n m : Nat} (less : n < m) (digit : m < 10) :
    Nat.digitChar n < Nat.digitChar m := by
  change (Nat.digitChar n).toNat < (Nat.digitChar m).toNat
  rw [Nat.toNat_digitChar_of_lt_ten digit, Nat.toNat_digitChar_of_lt_ten (less.trans digit)]
  omega

/-- Digits are in the order of the numbers. -/
theorem lastDigits_lt {places n m : Nat} (less : n < m) (fits : m < 10 ^ places) :
    lastDigits places n < lastDigits places m := by
  induction places generalizing n m with
  | zero => omega
  | succ places ih =>
      have fewer : m / 10 < 10 ^ places := by
        rw [Nat.pow_succ] at fits
        omega
      rw [lastDigits, lastDigits]
      rcases Nat.lt_or_eq_of_le (Nat.div_le_div_right (c := 10) less.le) with smaller | same
      · exact append_lt_append_of_lt (ih smaller fewer) (by simp) _ _
      · have last : n % 10 < m % 10 := by omega
        rw [same]
        exact List.append_left_lt (List.cons_lt_cons_iff.mpr
          (Or.inl (digitChar_lt last (Nat.mod_lt m (by decide)))))

/-- The number that digits spell. -/
def number? (digits : List Char) : Option Nat :=
  digits.foldlM (fun number c => (Text.asciiDigit? c).map (10 * number + ·)) 0

theorem asciiDigit?_digitChar {n : Nat} (digit : n < 10) :
    Text.asciiDigit? (Nat.digitChar n) = some n := by
  rw [Text.asciiDigit?, Nat.isDigit_digitChar, Nat.toNat_digitChar_of_lt_ten digit]
  simp [digit]

/-- A number is spelt by its last digits, if it fits into the places. -/
theorem number?_lastDigits {places n : Nat} (fits : n < 10 ^ places) :
    number? (lastDigits places n) = some n := by
  induction places generalizing n with
  | zero =>
      rw [Nat.pow_zero, Nat.lt_one_iff] at fits
      rw [fits]
      rfl
  | succ places ih =>
      have fewer : n / 10 < 10 ^ places := by
        rw [Nat.pow_succ] at fits
        omega
      have front := ih fewer
      rw [number?] at front
      rw [number?, lastDigits, List.foldlM_append, front]
      simp [asciiDigit?_digitChar (Nat.mod_lt n (by decide)), Nat.div_add_mod]

end Decimal

/-- One column of a text. -/
inductive Column where
  /-- A mark that is always the same. -/
  | mark (text : String)
  /-- A number with so many digits. -/
  | number (places : Nat)
  /-- One of some names of one length, known by its place among them. -/
  | name (length : Nat) (names : List String)

namespace Column

/-- The text shows the values in the columns. -/
inductive Shows : List Column → List Nat → List Char → Prop where
  /-- Nothing is shown without columns. -/
  | nil : Shows [] [] []
  /-- A mark takes no value. -/
  | mark (text : String) {columns : List Column} {values : List Nat} {rest : List Char}
      (later : Shows columns values rest) :
      Shows (mark text :: columns) values (text.toList ++ rest)
  /-- A number has to fit into its places. -/
  | number {places n : Nat} (fits : n < 10 ^ places) {columns : List Column} {values : List Nat}
      {rest : List Char} (later : Shows columns values rest) :
      Shows (number places :: columns) (n :: values) (Decimal.lastDigits places n ++ rest)
  /-- The names are all different, and the name is as long as the column is wide. -/
  | name {length : Nat} {names : List String} (distinct : names.Nodup) {place : Nat} {text : String}
      (placed : names[place]? = some text) (wide : text.length = length) {columns : List Column}
      {values : List Nat} {rest : List Char} (later : Shows columns values rest) :
      Shows (name length names :: columns) (place :: values) (text.toList ++ rest)

/-- A name is shown if the list has one at its place. -/
theorem Shows.name_getD {length place : Nat} {names : List String} (distinct : names.Nodup)
    (wide : ∀ name ∈ names, name.length = length) (inside : place < names.length)
    {columns : List Column} {values : List Nat} {rest : List Char}
    (later : Shows columns values rest) :
    Shows (Column.name length names :: columns) (place :: values)
      ((names.getD place "").toList ++ rest) := by
  have placed : names[place]? = some (names.getD place "") := by
    rw [List.getD_eq_getElem?_getD, List.getElem?_eq_getElem inside]
    rfl
  exact .name distinct placed (wide _ (List.mem_of_getElem? placed)) later

/-- The columns and the values make the text. -/
theorem Shows.unique {columns : List Column} {values : List Nat} {text other : List Char}
    (shows : Shows columns values text) (shows_other : Shows columns values other) :
    text = other := by
  induction shows generalizing other with
  | nil =>
      cases shows_other
      rfl
  | mark front later ih =>
      cases shows_other with
      | mark _ later_other => rw [ih later_other]
  | number fits later ih =>
      cases shows_other with
      | number fits_other later_other => rw [ih later_other]
  | name distinct placed wide later ih =>
      cases shows_other with
      | name _ placed_other _ later_other =>
          rw [Option.some.inj (placed.symm.trans placed_other), ih later_other]

/-- Read the values off the columns of a text. -/
def read? : List Column → List Char → Option (List Nat)
  | [], text => if text = [] then some [] else none
  | mark front :: columns, text =>
      if text.take front.length = front.toList then read? columns (text.drop front.length) else none
  | number places :: columns, text =>
      if places ≤ text.length then do
        let number ← Decimal.number? (text.take places)
        let others ← read? columns (text.drop places)
        return number :: others
      else none
  | name length names :: columns, text =>
      let found := String.ofList (text.take length)
      if found ∈ names then do
        let others ← read? columns (text.drop length)
        return names.idxOf found :: others
      else none

/-- A text is read back as the values that it shows. -/
theorem read?_of_shows {columns : List Column} {values : List Nat} {text : List Char}
    (shows : Shows columns values text) : read? columns text = some values := by
  induction shows with
  | nil => rfl
  | mark front later ih =>
      rw [read?, ← String.length_toList, List.take_left, if_pos rfl, List.drop_left, ih]
  | @number places n fits columns values rest later ih =>
      have width := Decimal.length_lastDigits places n
      rw [read?, List.take_left' width, List.drop_left' width, Decimal.number?_lastDigits fits, ih,
        if_pos (by simp)]
      rfl
  | @name length names distinct place text placed wide columns values rest later ih =>
      have width : text.toList.length = length := by rw [String.length_toList, wide]
      obtain ⟨inside, name_eq⟩ := List.getElem?_eq_some_iff.mp placed
      have place_eq : names.idxOf text = place := name_eq ▸ distinct.idxOf_getElem place inside
      rw [read?, List.take_left' width, List.drop_left' width, String.ofList_toList, ih, place_eq,
        if_pos (List.mem_of_getElem? placed)]
      rfl

/-- The columns have no names. -/
def AreSortable (columns : List Column) : Prop :=
  ∀ length names, name length names ∉ columns

/-- Texts of one shape without names are in the order of the numbers that they show. -/
theorem lt_of_shows {columns : List Column} {values others : List Nat} {text other : List Char}
    (sortable : AreSortable columns) (shows : Shows columns values text)
    (shows_other : Shows columns others other) (less : values < others) : text < other := by
  have sortable_tail {column : Column} {columns : List Column}
      (whole : AreSortable (column :: columns)) :
      AreSortable columns := fun length names within =>
    whole length names (List.mem_cons_of_mem column within)
  induction shows generalizing others other with
  | nil =>
      cases shows_other
      cases less
  | mark front later ih =>
      cases shows_other with
      | mark _ later_other =>
          exact List.append_left_lt (ih (sortable_tail sortable) later_other less)
  | number fits later ih =>
      cases shows_other with
      | number fits_other later_other =>
          rcases List.cons_lt_cons_iff.mp less with smaller | ⟨rfl, less_later⟩
          · exact append_lt_append_of_lt (Decimal.lastDigits_lt smaller fits_other) (by simp) _ _
          · exact List.append_left_lt (ih (sortable_tail sortable) later_other less_later)
  | name distinct placed wide later ih => exact absurd List.mem_cons_self (sortable _ _)

end Column
end RequestLog
