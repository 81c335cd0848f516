import RequestLog.Interpolation

/-!
# Templates with places for texts

A template whose places are all `%s` is filled with the texts of the arguments, one after the other,
and keeps everything between the places (`interpolate_templateOf`).
-/

namespace RequestLog
namespace Interpolation

/-- A character that begins no place stays. -/
theorem fillFrom_cons (size fuel : Nat) (supply : Supply) {c : Char} (plain : c ≠ '%')
    (rest : List Char) :
    fillFrom size (fuel + 1) supply (c :: rest) = (do
      let filled ← fillFrom size fuel supply rest
      return c :: filled) := by
  rw [fillFrom]
  · rintro later rfl
    exact absurd rfl plain
  · exact plain

/-- A text without a percent sign stays. -/
theorem fillFrom_append (size fuel : Nat) (supply : Supply) {front : List Char}
    (plain : '%' ∉ front) (rest : List Char) :
    fillFrom size (front.length + fuel) supply (front ++ rest) = (do
      let filled ← fillFrom size fuel supply rest
      return front ++ filled) := by
  induction front with
  | nil => simp
  | cons c front ih =>
      rw [List.mem_cons, not_or] at plain
      obtain ⟨differs, others⟩ := plain
      rw [List.length_cons, Nat.add_right_comm, List.cons_append,
        fillFrom_cons size _ supply (Ne.symm differs), ih others]
      simp

/-- A place without flags, width and precision takes a text as it is. -/
theorem padText_bare (text : List Char) : padText Place.bare text = .ok text := by
  have no_padding : Place.bare.width - text.length = 0 := Nat.zero_sub _
  have room : ensureRoom Place.bare.width = .ok () := rfl
  rw [padText, room, no_padding]
  rfl

/-- A bare place for a text takes the next argument. -/
theorem fillNext_text (size : Nat) (entries : Option (List (Value × Value))) (value : Value)
    (pending : List Value) (rest : List Char) :
    fillNext size ⟨entries, value :: pending⟩ ('s' :: rest) =
      .ok (value.text.toList, ⟨entries, pending⟩, rest) := by
  have filled : fillNext size ⟨entries, value :: pending⟩ ('s' :: rest) = (do
      let text ← padText Place.bare value.text.toList
      return (text, ⟨entries, pending⟩, rest)) := rfl
  rw [filled, padText_bare]
  rfl

/-- The rest of a template from its first place on: places for texts, each with what follows it. -/
def templateOf (places : List (Value × List Char)) : List Char :=
  places.flatMap fun place => '%' :: 's' :: place.2

/-- The rest of a template with the texts of the values in its places. -/
def filledWith (places : List (Value × List Char)) : List Char :=
  places.flatMap fun place => place.1.text.toList ++ place.2

/-- From its first place on a template is filled with the texts of the values. -/
theorem fillFrom_templateOf (size : Nat) {places : List (Value × List Char)}
    (plain : ∀ place ∈ places, '%' ∉ place.2) (spare : Nat) :
    fillFrom size ((templateOf places).length + spare + 1) ⟨none, places.map Prod.fst⟩
      (templateOf places) = .ok (filledWith places) := by
  induction places generalizing spare with
  | nil => rfl
  | cons place rest ih =>
      obtain ⟨value, tail⟩ := place
      have rest_filled := ih (fun later within => plain later (List.mem_cons_of_mem _ within))
        (spare + 1)
      have spelled : templateOf ((value, tail) :: rest) =
          '%' :: 's' :: (tail ++ templateOf rest) := rfl
      have steps : (templateOf ((value, tail) :: rest)).length + spare =
          tail.length + ((templateOf rest).length + (spare + 1) + 1) := by
        rw [spelled]
        simp only [List.length_cons, List.length_append]
        omega
      rw [steps, spelled, List.map_cons, fillFrom, fillNext_text]
      · simp only [Except.bind, bind, fillFrom_append size _ _ (plain _ List.mem_cons_self),
          rest_filled]
        simp [filledWith, pure, Except.pure]
      · simp

/-- A template that begins with a text and has places for texts is filled with the texts of the
values. -/
theorem interpolate_templateOf (front : List Char) (places : List (Value × List Char))
    (plain_front : '%' ∉ front) (plain : ∀ place ∈ places, '%' ∉ place.2)
    (some_place : places ≠ []) :
    interpolate (String.ofList (front ++ templateOf places)) (.positional (places.map Prod.fst)) =
      .ok (String.ofList (front ++ filledWith places)) := by
  have some_value : (places.map Prod.fst).isEmpty = false := by simpa using some_place
  have rest_filled := fillFrom_templateOf (front ++ templateOf places).length plain 0
  have steps : (front ++ templateOf places).length + 1 =
      front.length + ((templateOf places).length + 0 + 1) := by
    rw [List.length_append]
    omega
  simp only [interpolate, LogArguments.isEmpty, some_value, Bool.false_eq_true, ↓reduceIte,
    String.toList_ofList, Supply.of]
  rw [steps, fillFrom_append _ _ _ plain_front, rest_filled]
  rfl

/-- A template with one place for a text at its end is filled with the text of its only argument, be
that a mapping or not. -/
theorem interpolate_only (front : String) (plain : '%' ∉ front.toList) (value : Value) :
    interpolate (front ++ "%s") (.ofList [value]) = .ok (front ++ value.text) := by
  obtain ⟨entries, supply⟩ : ∃ entries, Supply.of (.ofList [value]) = ⟨entries, [value]⟩ := by
    unfold LogArguments.ofList
    split
    · next entry rest same => exact ⟨some (entry :: rest), by rw [List.singleton_inj.mp same]; rfl⟩
    · exact ⟨_, rfl⟩
  have some_argument : (LogArguments.ofList [value]).isEmpty = false := by
    unfold LogArguments.ofList
    split <;> rfl
  have template : (front ++ "%s").toList = front.toList ++ ['%', 's'] := String.toList_append
  have steps : (front.toList ++ ['%', 's']).length + 1 = front.toList.length + 3 := by simp
  have filled : String.ofList (front.toList ++ value.text.toList) = front ++ value.text := by
    rw [← String.toList_append, String.ofList_toList]
  simp only [interpolate, some_argument, Bool.false_eq_true, ↓reduceIte, template, supply]
  rw [steps, fillFrom_append _ _ _ plain, fillFrom, fillNext_text]
  · simp [fillFrom, bind, Except.bind, pure, Except.pure, filled]
  · simp

end Interpolation
end RequestLog
