import RequestLog.Text.Blank

/-!
# Cutting a text at a separator

`pieces` cuts at every separator and returns one piece more than there are separators; `halves` cuts
at the first one only.
-/

namespace RequestLog
namespace Text

/-- The pieces of a text between separators. -/
def pieces (separator : Char) : List Char → List (List Char)
  | [] => [[]]
  | c :: rest =>
      if c = separator then [] :: pieces separator rest
      else
        match pieces separator rest with
        | [] => [[c]]
        | piece :: others => (c :: piece) :: others

/-- The text before the first separator and the text after it, if there is a separator. -/
def halves (separator : Char) (text : List Char) : List Char × Option (List Char) :=
  match text.dropWhile (· ≠ separator) with
  | [] => (text.takeWhile (· ≠ separator), none)
  | _ :: rest => (text.takeWhile (· ≠ separator), some rest)

theorem pieces_ne_nil (separator : Char) (text : List Char) : pieces separator text ≠ [] := by
  cases text with
  | nil => simp [pieces]
  | cons c rest =>
      rw [pieces]
      split
      · simp
      · split <;> simp

/-- There is one piece more than there are separators. -/
theorem length_pieces (separator : Char) (text : List Char) :
    (pieces separator text).length = text.count separator + 1 := by
  induction text with
  | nil => rfl
  | cons c rest ih =>
      rw [pieces, List.count_cons]
      by_cases same : c = separator
      · simp [same, ih]
      · simp only [same, ↓reduceIte, beq_iff_eq, Nat.add_zero]
        rw [← ih]
        split
        · next empty => exact absurd empty (pieces_ne_nil separator rest)
        · next piece others found => simp [found]

end Text
end RequestLog
