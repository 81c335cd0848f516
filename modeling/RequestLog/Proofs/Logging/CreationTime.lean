import RequestLog.Logging.Entry

/-!
# Creation times

The creation time of an entry is a number of seconds, which comes to a number of microseconds.  An
entry has an instant exactly if calendars count its year with four digits.
-/

namespace RequestLog

open Decimal

namespace Calendar

/-- A 400-year cycle has 400 years. -/
theorem yearsWithin_lt {days : Nat} (within : days < 146097) : (yearsWithin days).1 < 400 := by
  simp only [yearsWithin]
  omega

/-- Days of the years from 1 to 9999. -/
theorem days_of_year {days : Int} (years : 1 ≤ (dateOf days).year ∧ (dateOf days).year ≤ 9999) :
    -719162 ≤ days ∧ days < 2933263 := by
  have in_cycle : ((days + epochDays) % 146097).toNat < 146097 := by omega
  have year_in_cycle := yearsWithin_lt in_cycle
  have year_eq : (dateOf days).year = (days + epochDays) / 146097 * 400 +
    (yearsWithin ((days + epochDays) % 146097).toNat).1 + 1 := rfl
  rw [year_eq] at years
  simp only [epochDays] at years year_in_cycle
  omega

end Calendar

namespace Logging

/-- The microseconds that a time in seconds comes to.  A fraction of a second is rounded, and its
whole seconds have to fit into a word. -/
inductive ComesTo : Value → Int → Prop
  | seconds (n : Int) : ComesTo (.int n) (n * 1000000)
  | second (b : Bool) : ComesTo (.bool b) (if b then 1000000 else 0)
  | fraction {x : Float} {time rest : Decimal.Dyadic} (finite : Binary64.ofFloat x = .finite time)
      (counted : -wordLimit ≤ time.truncated ∧ time.truncated < wordLimit)
      (left : Binary64.ofFloat ((x - floatOfInt time.truncated) * 1000000) = .finite rest) :
      ComesTo (.float x) (time.truncated * 1000000 +
        if rest.negative then -(rest.roundScaled 0 : Int) else rest.roundScaled 0)

theorem checkedInstant_eq_ok_iff {micros : Int} {instant : Instant} :
    checkedInstant micros = .ok instant ↔
      micros = instant.micros ∧ 1 ≤ instant.date.year ∧ instant.date.year ≤ 9999 := by
  simp only [checkedInstant]
  constructor
  · intro made
    split at made
    · cases made
    · split at made
      · cases made
      · cases made
        exact ⟨rfl, by omega⟩
  · rintro ⟨rfl, least, most⟩
    have counted : ¬(instant.date.year < -2147481748 ∨ 2147485547 < instant.date.year) := by omega
    have in_range : ¬(instant.date.year < 1 ∨ 9999 < instant.date.year) := by omega
    rw [if_neg counted, if_neg in_range]

theorem comesTo_of_instantOf {time : Value} {instant : Instant}
    (made : instantOf time = .ok instant) :
    ComesTo time instant.micros ∧ 1 ≤ instant.date.year ∧ instant.date.year ≤ 9999 := by
  cases time with
  | float x =>
      simp only [instantOf, instantOfSeconds] at made
      split at made
      · cases made
      · cases made
      · next value finite =>
          split at made
          · cases made
          · next counted =>
              split at made
              · next rest left =>
                  obtain ⟨micros_eq, years⟩ := checkedInstant_eq_ok_iff.mp made
                  rw [← micros_eq]
                  exact ⟨.fraction finite (by omega) left, years⟩
              · cases made
  | int n =>
      simp only [instantOf] at made
      split at made
      · cases made
      · obtain ⟨micros_eq, years⟩ := checkedInstant_eq_ok_iff.mp made
        rw [← micros_eq]
        exact ⟨.seconds n, years⟩
  | bool b =>
      simp only [instantOf] at made
      obtain ⟨micros_eq, years⟩ := checkedInstant_eq_ok_iff.mp made
      rw [← micros_eq]
      exact ⟨.second b, years⟩
  | _ => cases made

theorem instantOf_of_comesTo {time : Value} {instant : Instant}
    (comes : ComesTo time instant.micros)
    (years : 1 ≤ instant.date.year ∧ instant.date.year ≤ 9999) :
    instantOf time = .ok instant := by
  have checked := checkedInstant_eq_ok_iff.mpr ⟨rfl, years⟩
  generalize micros_eq : instant.micros = micros at comes checked
  cases comes with
  | seconds n =>
      -- Years of four digits keep the seconds far inside a word.
      have near := Calendar.days_of_year years
      have small : ¬(n < -wordLimit ∨ wordLimit ≤ n) := by
        simp only [Instant.days, micros_eq, wordLimit] at near ⊢
        omega
      rw [instantOf, if_neg small, checked]
  | second b => rw [instantOf, checked]
  | @fraction x time rest finite counted left =>
      have small : ¬(time.truncated < -wordLimit ∨ wordLimit ≤ time.truncated) := by omega
      simp only [instantOf, instantOfSeconds, finite, if_neg small, left, checked]

/-- A time has an instant exactly if it comes to one in the years from 1 to 9999. -/
theorem instantOf_eq_ok_iff {time : Value} {instant : Instant} :
    instantOf time = .ok instant ↔
      ComesTo time instant.micros ∧ 1 ≤ instant.date.year ∧ instant.date.year ≤ 9999 :=
  ⟨comesTo_of_instantOf, fun ⟨comes, years⟩ => instantOf_of_comesTo comes years⟩

end Logging
end RequestLog
