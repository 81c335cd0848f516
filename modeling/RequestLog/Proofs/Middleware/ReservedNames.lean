import Mathlib.Data.List.Nodup
import Mathlib.Data.List.Perm.Subperm
import RequestLog.Middleware.Setup

/-!
# Reserved names

The reserved names are numbered, and no two of them are alike.  The search for a free one starts at
number one and may skip as many names as there are formats; so it always comes to one that is free.
-/

namespace RequestLog
namespace Middleware

theorem reservedNameAt_inj {left right : Nat} (left_pos : 1 ≤ left) (right_pos : 1 ≤ right)
    (same : reservedNameAt left = reservedNameAt right) : left = right := by
  have letters := congrArg String.toList same
  simp only [reservedNameAt] at letters
  split at letters <;> split at letters
  · omega
  · have lengths := congrArg List.length letters
    simp [reservedName] at lengths
  · have lengths := congrArg List.length letters
    simp [reservedName] at lengths
  · simp only [String.toList_append] at letters
    have digits := congrArg (Nat.ofDigitChars 10 · 0) (List.append_cancel_left letters)
    simpa [Nat.toString_eq_ofList_toDigits] using digits

/-- The search skips names that are taken and ends with one that is not, unless it has to end. -/
theorem exists_freeNameFrom_eq (taken : List String) (fuel number : Nat) :
    ∃ steps ≤ fuel, freeNameFrom taken fuel number = reservedNameAt (number + steps) ∧
      (∀ step < steps, reservedNameAt (number + step) ∈ taken) ∧
      (steps < fuel → reservedNameAt (number + steps) ∉ taken) := by
  induction fuel generalizing number with
  | zero => exact ⟨0, Nat.le_refl 0, rfl, by simp, by simp⟩
  | succ fuel ih =>
      rw [freeNameFrom]
      split
      · next skipped =>
          obtain ⟨steps, bound, found, before, free⟩ := ih (number + 1)
          have shifted (step : Nat) : number + 1 + step = number + (step + 1) := by omega
          rw [shifted] at found free
          refine ⟨steps + 1, by omega, found, fun step within => ?_, fun within => free (by omega)⟩
          cases step with
          | zero => simpa using skipped
          | succ step => exact shifted step ▸ before step (by omega)
      · next free => exact ⟨0, by omega, rfl, by simp, fun _ => by simpa using free⟩

/-- No more reserved names are taken than there are names. -/
theorem length_of_taken {taken : List String} {count : Nat}
    (all_taken : ∀ step < count, reservedNameAt (1 + step) ∈ taken) : count ≤ taken.length := by
  let names := (List.range count).map fun step => reservedNameAt (1 + step)
  have distinct : names.Nodup := by
    refine List.Nodup.map_on (fun left _ right _ same => ?_) List.nodup_range
    have := reservedNameAt_inj (by omega) (by omega) same
    omega
  have within : names ⊆ taken := by
    intro name named
    obtain ⟨step, below, rfl⟩ := List.mem_map.mp named
    exact all_taken step (List.mem_range.mp below)
  have shorter := (List.subperm_of_subset distinct within).length_le
  simpa [names] using shorter

/-- The search ends at a name that is free, and all names before it are taken. -/
theorem exists_freeName_eq {σ : Type} (registry : Registry σ) :
    ∃ steps ≤ registry.formats.length, freeName registry = reservedNameAt (1 + steps) ∧
      (∀ step < steps, reservedNameAt (1 + step) ∈ registry.formats.names) ∧
      freeName registry ∉ registry.formats.names := by
  obtain ⟨steps, bound, found, before, free⟩ :=
    exists_freeNameFrom_eq registry.formats.names registry.formats.length 1
  refine ⟨steps, bound, found, before, fun taken => ?_⟩
  rw [freeName, found] at taken
  rcases Nat.lt_or_eq_of_le bound with early | last
  · exact free early taken
  · have all_taken : ∀ step < steps + 1, reservedNameAt (1 + step) ∈ registry.formats.names := by
      intro step within
      rcases Nat.lt_succ_iff_lt_or_eq.mp within with earlier | rfl
      · exact before step earlier
      · exact taken
    have too_many := length_of_taken all_taken
    rw [Catalog.names, List.length_map] at too_many
    omega

theorem freeName_not_mem {σ : Type} (registry : Registry σ) :
    freeName registry ∉ registry.formats.names := by
  obtain ⟨-, -, -, -, free⟩ := exists_freeName_eq registry
  exact free

end Middleware
end RequestLog
