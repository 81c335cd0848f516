import Mathlib.Data.List.DropRight
import RequestLog.Text.Pieces

/-!
# Trimmed texts and pieces

Trimming leaves the one trimmed text that stands between blanks (`trim_eq_iff`).  Cutting at a
separator is undone by putting the separator between the pieces, so the lemmas of the library on
cutting and joining apply to pieces (`pieces_eq_splitOn`).  Cutting at the first separator leaves
none before it (`halves_eq_some_iff`).
-/

namespace RequestLog
namespace Text

/-- No blank stands at either end of the text. -/
structure IsTrimmed (text : List Char) : Prop where
  /-- The first character is no blank. -/
  first : ∀ c, text.head? = some c → isBlank c = false
  /-- The last character is no blank. -/
  last : ∀ c, text.getLast? = some c → isBlank c = false

theorem dropWhile_isBlank_of_first {text : List Char}
    (first : ∀ c, text.head? = some c → isBlank c = false) : text.dropWhile isBlank = text := by
  cases text with
  | nil => rfl
  | cons c rest => rw [List.dropWhile_cons_of_neg (by simp [first c rfl])]

/-- Trimming takes the blanks from the left first. -/
theorem trim_eq_rdropWhile (text : List Char) :
    trim text = (text.dropWhile isBlank).rdropWhile isBlank := rfl

theorem isTrimmed_trim (text : List Char) : IsTrimmed (trim text) := by
  constructor
  · intro c found
    obtain ⟨back, joined⟩ := List.rdropWhile_prefix isBlank (text.dropWhile isBlank)
    have first : (text.dropWhile isBlank).head? = some c := by
      rw [← joined, List.head?_append, ← trim_eq_rdropWhile, found, Option.some_or]
    have outside := List.head?_dropWhile_not isBlank text
    rwa [first] at outside
  · intro c found
    have nonempty : trim text ≠ [] := by
      intro empty
      simp [empty] at found
    rw [List.getLast?_eq_getLast_of_ne_nil nonempty] at found
    have outside := List.rdropWhile_last_not isBlank (text.dropWhile isBlank) nonempty
    rw [Bool.not_eq_true] at outside
    exact Option.some.inj found ▸ outside

/-- What is trimmed off are blanks. -/
theorem exists_eq_trim_between (text : List Char) :
    ∃ front back, text = front ++ trim text ++ back ∧
      (∀ c ∈ front, isBlank c = true) ∧ ∀ c ∈ back, isBlank c = true := by
  refine ⟨text.takeWhile isBlank, (text.dropWhile isBlank).rtakeWhile isBlank, ?_,
    fun c within => List.mem_takeWhile_imp within, fun c within => List.mem_rtakeWhile_imp within⟩
  rw [List.append_assoc, trim_eq_rdropWhile, List.rdropWhile_append_rtakeWhile,
    List.takeWhile_append_dropWhile]

/-- Blanks around a trimmed text are trimmed off. -/
theorem trim_between {front core back : List Char} (front_blank : ∀ c ∈ front, isBlank c = true)
    (trimmed : IsTrimmed core) (back_blank : ∀ c ∈ back, isBlank c = true) :
    trim (front ++ core ++ back) = core := by
  rw [trim_eq_rdropWhile, List.append_assoc, List.dropWhile_append_of_pos front_blank]
  cases core with
  | nil => rw [List.nil_append, List.dropWhile_eq_nil_iff.mpr back_blank, List.rdropWhile_nil]
  | cons c rest =>
      have starts : (c :: rest ++ back).dropWhile isBlank = c :: rest ++ back :=
        dropWhile_isBlank_of_first fun _ found => trimmed.first _ (by simpa using found)
      have back_blank_reversed : ∀ c ∈ back.reverse, isBlank c = true := by simpa using back_blank
      have ends : (c :: rest).reverse.dropWhile isBlank = (c :: rest).reverse :=
        dropWhile_isBlank_of_first fun _ found =>
          trimmed.last _ (by rwa [List.head?_reverse] at found)
      rw [starts, List.rdropWhile, List.reverse_append,
        List.dropWhile_append_of_pos back_blank_reversed, ends, List.reverse_reverse]

/-- Trimming a text leaves the trimmed text that stands between blanks. -/
theorem trim_eq_iff {text core : List Char} :
    trim text = core ↔ IsTrimmed core ∧ ∃ front back, text = front ++ core ++ back ∧
      (∀ c ∈ front, isBlank c = true) ∧ ∀ c ∈ back, isBlank c = true := by
  constructor
  · rintro rfl
    exact ⟨isTrimmed_trim text, exists_eq_trim_between text⟩
  · rintro ⟨trimmed, front, back, rfl, front_blank, back_blank⟩
    exact trim_between front_blank trimmed back_blank

theorem trim_of_isTrimmed {text : List Char} (trimmed : IsTrimmed text) : trim text = text :=
  trim_eq_iff.mpr ⟨trimmed, [], [], by simp⟩

theorem mem_of_mem_trim {text : List Char} {c : Char} (within : c ∈ trim text) : c ∈ text := by
  obtain ⟨front, back, joined, -⟩ := exists_eq_trim_between text
  rw [joined]
  exact List.mem_append_left _ (List.mem_append_right _ within)

theorem pieces_eq_splitOn (separator : Char) (text : List Char) :
    pieces separator text = text.splitOn separator := by
  induction text with
  | nil => rfl
  | cons c rest ih =>
      rw [pieces, List.splitOn_cons_eq_if_modifyHead, ih]
      by_cases same : c = separator
      · simp [same]
      · rw [if_neg same, if_neg (by simpa using same)]
        cases split : rest.splitOn separator with
        | nil => exact absurd split (List.splitOn_ne_nil separator rest)
        | cons piece others => rfl

/-- The text before the first separator holds none, and the rest stands behind it. -/
theorem halves_eq_some_iff {separator : Char} {text front back : List Char} :
    halves separator text = (front, some back) ↔
      text = front ++ separator :: back ∧ separator ∉ front := by
  constructor
  · intro cut
    have parts := List.takeWhile_append_dropWhile (p := (· ≠ separator)) (l := text)
    have outside := List.head?_dropWhile_not (· ≠ separator) text
    rw [halves] at cut
    cases found : text.dropWhile (· ≠ separator) with
    | nil =>
        rw [found] at cut
        cases (Prod.mk.inj cut).2
    | cons c rest =>
        rw [found] at cut parts outside
        obtain ⟨rfl, same⟩ := Prod.mk.inj cut
        obtain rfl := Option.some.inj same
        obtain rfl : c = separator := by simpa using outside
        exact ⟨parts.symm, fun within => by simpa using List.mem_takeWhile_imp within⟩
  · rintro ⟨rfl, absent⟩
    have before : ∀ c ∈ front, decide (c ≠ separator) = true := by
      intro c within
      rw [decide_eq_true_iff]
      rintro rfl
      exact absent within
    rw [halves, List.dropWhile_append_of_pos before, List.takeWhile_append_of_pos before]
    simp

theorem headD_splitOn (separator : Char) (text : List Char) :
    (text.splitOn separator).headD [] = text.takeWhile (· ≠ separator) := by
  induction text with
  | nil => rfl
  | cons c rest ih =>
      rw [List.splitOn_cons_eq_if_modifyHead]
      by_cases same : c = separator
      · simp [same]
      · cases split : rest.splitOn separator with
        | nil => exact absurd split (List.splitOn_ne_nil separator rest)
        | cons piece others => simpa [same, split] using ih

/-- The text before the first separator is the first piece. -/
theorem fst_halves (separator : Char) (text : List Char) :
    (halves separator text).1 = (text.splitOn separator).headD [] := by
  rw [headD_splitOn, halves]
  split <;> rfl

/-- The characters of the pieces are those of the text, but for the separator. -/
theorem exists_mem_pieces_iff {separator c : Char} {text : List Char} :
    (∃ piece ∈ pieces separator text, c ∈ piece) ↔ c ∈ text ∧ c ≠ separator := by
  induction text with
  | nil => simp [pieces]
  | cons first rest ih =>
      rw [pieces, List.mem_cons]
      split
      · next same =>
          rw [List.exists_mem_cons_iff, ih]
          constructor
          · rintro (within | ⟨later, differs⟩)
            · cases within
            · exact ⟨Or.inr later, differs⟩
          · rintro ⟨here | later, differs⟩
            · exact absurd (here.trans same) differs
            · exact Or.inr ⟨later, differs⟩
      · next differs =>
          split
          · next empty => exact absurd empty (pieces_ne_nil separator rest)
          · next piece others found =>
              rw [found, List.exists_mem_cons_iff] at ih
              rw [List.exists_mem_cons_iff, List.mem_cons, or_assoc, ih]
              constructor
              · rintro (rfl | ⟨later, other⟩)
                · exact ⟨Or.inl rfl, differs⟩
                · exact ⟨Or.inr later, other⟩
              · rintro ⟨here | later, other⟩
                · exact Or.inl here
                · exact Or.inr ⟨later, other⟩

end Text
end RequestLog
