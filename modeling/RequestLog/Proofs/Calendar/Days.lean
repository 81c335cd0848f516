import Mathlib.Algebra.GroupWithZero.Nat
import Mathlib.Algebra.Order.BigOperators.Group.List
import Mathlib.Algebra.Order.Group.Nat
import RequestLog.Proofs.Logging.CreationTime

/-!
# The calendar counts days

The days of the Gregorian calendar are numbered in the order of their dates, zero being the first of
January 1970.  A date has the number of the days before its year, of those before its month, and of
those before it.  `dateOf` finds the date of every number (`dayNumber_dateOf`), and of two dates the
earlier one has the smaller number (`dayNumber_lt`).
-/

namespace RequestLog
namespace Calendar

/-! ## Years -/

/-- The days from the first day of the era to the first day of a year: one year in four has one more
than 365, but of the full centuries only one in four. -/
def daysBeforeYear (year : Int) : Int :=
  365 * (year - 1) + (year - 1) / 4 - (year - 1) / 100 + (year - 1) / 400

theorem isLeap_iff {year : Int} :
    isLeap year = true ↔ year % 4 = 0 ∧ (year % 100 ≠ 0 ∨ year % 400 = 0) := by
  simp [isLeap]

theorem sum_monthLengths (leap : Bool) : (monthLengths leap).sum = if leap then 366 else 365 := by
  cases leap <;> rfl

/-- The next year begins when the months of a year are over. -/
theorem daysBeforeYear_succ (year : Int) :
    daysBeforeYear (year + 1) = daysBeforeYear year + (monthLengths (isLeap year)).sum := by
  rw [sum_monthLengths]
  simp only [daysBeforeYear, Int.add_sub_cancel]
  split
  · next leap =>
      have divisible := isLeap_iff.mp leap
      omega
  · next ordinary =>
      have indivisible := mt isLeap_iff.mpr ordinary
      omega

/-- Earlier years are over before later ones begin. -/
theorem daysBeforeYear_mono {year later : Int} (before : year ≤ later) :
    daysBeforeYear year ≤ daysBeforeYear later := by
  simp only [daysBeforeYear]
  omega

/-- A cycle of 400 years is cut into centuries, cycles of four years, years and days.  A year has a
366th day only if it is the last one of its four, and these are not the last of a century but the
fourth. -/
theorem yearsWithin_parts {days : Nat} (within : days < 146097) :
    ∃ centuries fours years : Nat, centuries ≤ 3 ∧ fours ≤ 24 ∧ years ≤ 3 ∧
      (yearsWithin days).1 = centuries * 100 + fours * 4 + years ∧
      days = centuries * 36524 + fours * 1461 + years * 365 + (yearsWithin days).2 ∧
      ((yearsWithin days).2 < 365 ∨
        (yearsWithin days).2 = 365 ∧ years = 3 ∧ (fours < 24 ∨ centuries = 3)) := by
  let centuries := min (days / 36524) 3
  let inCentury := days - centuries * 36524
  let years := min (inCentury % 1461 / 365) 3
  have left : (yearsWithin days).2 = inCentury % 1461 - years * 365 := rfl
  have century : days = centuries * 36524 + inCentury ∧ centuries ≤ 3 ∧
      (inCentury < 36524 ∨ inCentury = 36524 ∧ centuries = 3) := by
    omega
  refine ⟨centuries, inCentury / 1461, years, ?_, ?_, ?_, rfl, ?_, ?_⟩ <;> omega

/-- The years that pass within a cycle of 400 take their days, and the days left over are days of
the year after them. -/
theorem yearsWithin_spec {days : Nat} (within : days < 146097) (cycle : Int) :
    let year := cycle * 400 + (yearsWithin days).1 + 1
    cycle * 146097 + days = daysBeforeYear year + (yearsWithin days).2 ∧
      (yearsWithin days).2 < (monthLengths (isLeap year)).sum := by
  intro year
  obtain ⟨centuries, fours, years, few_centuries, few_fours, few_years, passed, parts, left⟩ :=
    yearsWithin_parts within
  have year_eq : year = cycle * 400 + centuries * 100 + fours * 4 + years + 1 := by
    simp only [year, passed]
    omega
  constructor
  · have of_four : (year - 1) / 4 = cycle * 100 + centuries * 25 + fours := by omega
    have of_century : (year - 1) / 100 = cycle * 4 + centuries := by omega
    have of_cycle : (year - 1) / 400 = cycle := by omega
    rw [daysBeforeYear, of_four, of_century, of_cycle]
    omega
  · rw [sum_monthLengths]
    rcases left with ordinary | ⟨last, rfl, early⟩
    · split <;> omega
    · have leap : isLeap year = true := isLeap_iff.mpr (by omega)
      rw [if_pos leap, last]
      decide

/-! ## Months -/

/-- The months that pass within the days of a list take their days, and the days left over are days
of the month after them. -/
theorem monthsWithin_spec {lengths : List Nat} {days : Nat} (within : days < lengths.sum) :
    days = (lengths.take (monthsWithin lengths days).1).sum + (monthsWithin lengths days).2 ∧
      (monthsWithin lengths days).2 < lengths.getD (monthsWithin lengths days).1 0 := by
  induction lengths generalizing days with
  | nil => cases within
  | cons length lengths ih =>
      rw [List.sum_cons] at within
      rw [monthsWithin]
      split
      · next short => simpa using short
      · next long =>
          obtain ⟨parts, left⟩ := ih (show days - length < lengths.sum by omega)
          refine ⟨?_, by simpa using left⟩
          simp only [List.take_succ_cons, List.sum_cons]
          omega

theorem sum_take_succ (lengths : List Nat) (months : Nat) :
    (lengths.take (months + 1)).sum = (lengths.take months).sum + lengths.getD months 0 := by
  induction lengths generalizing months with
  | nil => simp
  | cons length lengths ih =>
      cases months with
      | zero => simp
      | succ months => simp [ih, Nat.add_assoc]

theorem sum_take_mono (lengths : List Nat) {months later : Nat} (before : months ≤ later) :
    (lengths.take months).sum ≤ (lengths.take later).sum :=
  (List.take_sublist_take_left before).sum_le_sum fun _ _ => Nat.zero_le _

/-- The days from the first day of a year to that of a month.  Months have 367 days for every twelve
of them, spread evenly, but that February falls short of it by one or two. -/
def daysBeforeMonth (leap : Bool) (month : Nat) : Nat :=
  (367 * month - 362) / 12 - if month ≤ 2 then 0 else if leap then 1 else 2

/-- The months before a month take the days before it. -/
theorem sum_take_monthLengths {leap : Bool} {month : Nat} (counted : 1 ≤ month) (few : month ≤ 12) :
    ((monthLengths leap).take (month - 1)).sum = daysBeforeMonth leap month := by
  have table : ∀ leap, ∀ month ∈ List.range' 1 12,
      ((monthLengths leap).take (month - 1)).sum = daysBeforeMonth leap month := by
    decide
  exact table leap month (List.mem_range'_1.mpr ⟨counted, by omega⟩)

end Calendar

/-! ## Dates -/

namespace Date

open Calendar

/-- The date is a day of the calendar. -/
structure IsValid (date : Date) : Prop where
  /-- Months are counted from one. -/
  month : 1 ≤ date.month
  /-- Days are counted from one. -/
  day : 1 ≤ date.day
  /-- The month is one of the year, and has the day. -/
  inMonth : date.day ≤ (monthLengths (isLeap date.year)).getD (date.month - 1) 0

instance (date : Date) : Decidable date.IsValid :=
  decidable_of_iff (1 ≤ date.month ∧ 1 ≤ date.day ∧
      date.day ≤ (monthLengths (isLeap date.year)).getD (date.month - 1) 0)
    ⟨fun ⟨month, day, inMonth⟩ => ⟨month, day, inMonth⟩,
      fun ⟨month, day, inMonth⟩ => ⟨month, day, inMonth⟩⟩

/-- The number of a date: days since the beginning of 1970. -/
def dayNumber (date : Date) : Int :=
  daysBeforeYear date.year + daysBeforeMonth (isLeap date.year) date.month + (date.day - 1) -
    daysBeforeYear 1970

namespace IsValid

variable {date : Date} (valid : date.IsValid)

include valid

/-- A year has twelve months. -/
theorem month_le : date.month ≤ 12 := by
  by_contra beyond
  have none_there : (monthLengths (isLeap date.year)).getD (date.month - 1) 0 = 0 := by
    rw [List.getD_eq_getElem?_getD, List.getElem?_eq_none (show 12 ≤ date.month - 1 by omega)]
    rfl
  have in_month := valid.inMonth
  rw [none_there] at in_month
  exact absurd valid.day (by omega)

/-- No month has more than 31 days. -/
theorem day_le : date.day ≤ 31 := by
  have longest : ∀ leap, ∀ length ∈ monthLengths leap, length ≤ 31 := by decide
  have in_month := valid.inMonth
  rw [List.getD_eq_getElem?_getD] at in_month
  cases found : (monthLengths (isLeap date.year))[date.month - 1]? with
  | none =>
      rw [found] at in_month
      exact in_month.trans (Nat.zero_le 31)
  | some length =>
      rw [found] at in_month
      exact in_month.trans (longest _ length (List.mem_of_getElem? found))

theorem dayNumber_eq :
    date.dayNumber = daysBeforeYear date.year +
      ((monthLengths (isLeap date.year)).take (date.month - 1)).sum + (date.day - 1) -
        daysBeforeYear 1970 := by
  rw [dayNumber, sum_take_monthLengths valid.month valid.month_le]

/-- A date is a day of its month: it comes before the next month begins. -/
theorem sum_take_lt :
    ((monthLengths (isLeap date.year)).take (date.month - 1)).sum + (date.day - 1) <
      ((monthLengths (isLeap date.year)).take date.month).sum := by
  have next : date.month - 1 + 1 = date.month := Nat.sub_add_cancel valid.month
  have passed := sum_take_succ (monthLengths (isLeap date.year)) (date.month - 1)
  rw [next] at passed
  have first := valid.day
  have last := valid.inMonth
  omega

/-- A date is a day of its year: it comes before the next year begins. -/
theorem sum_take_lt_year :
    daysBeforeYear date.year + ((monthLengths (isLeap date.year)).take (date.month - 1)).sum +
      (date.day - 1) < daysBeforeYear (date.year + 1) := by
  have in_month := valid.sum_take_lt
  have first := valid.day
  have in_year : ((monthLengths (isLeap date.year)).take date.month).sum ≤
      (monthLengths (isLeap date.year)).sum :=
    (List.take_sublist _ _).sum_le_sum fun _ _ => Nat.zero_le _
  rw [daysBeforeYear_succ]
  omega

end IsValid

/-- The first date comes before the second. -/
def IsBefore (date later : Date) : Prop :=
  date.year < later.year ∨ date.year = later.year ∧
    (date.month < later.month ∨ date.month = later.month ∧ date.day < later.day)

/-- An earlier date has a smaller number. -/
theorem IsBefore.dayNumber_lt {date later : Date} (before : date.IsBefore later)
    (valid : date.IsValid) (valid_later : later.IsValid) : date.dayNumber < later.dayNumber := by
  have first := valid_later.day
  have in_month := valid.sum_take_lt
  rw [valid.dayNumber_eq, valid_later.dayNumber_eq]
  rcases before with earlier_year | ⟨same_year, earlier_month | ⟨same_month, earlier_day⟩⟩
  · have in_year := valid.sum_take_lt_year
    have begun := daysBeforeYear_mono earlier_year
    omega
  · rw [same_year] at in_month ⊢
    have gone := sum_take_mono (monthLengths (isLeap later.year))
      (show date.month ≤ later.month - 1 by omega)
    omega
  · rw [same_year, same_month]
    have begun := valid.day
    omega

end Date

namespace Calendar

/-- What the date of a number of days is made of: the days before its year, those before its month,
and the day in it. -/
theorem dateOf_spec (days : Int) :
    let date := dateOf days
    let lengths := monthLengths (isLeap date.year)
    days + epochDays =
        daysBeforeYear date.year + (lengths.take (date.month - 1)).sum + (date.day - 1) ∧
      date.IsValid := by
  have within : ((days + epochDays) % 146097).toNat < 146097 := by omega
  have cycles : days + epochDays =
      (days + epochDays) / 146097 * 146097 + ((days + epochDays) % 146097).toNat := by
    omega
  obtain ⟨years_eq, in_year⟩ := yearsWithin_spec within ((days + epochDays) / 146097)
  obtain ⟨months_eq, in_month⟩ := monthsWithin_spec in_year
  rw [dateOf]
  simp only [Nat.add_sub_cancel]
  refine ⟨by omega, Nat.le_add_left .., Nat.le_add_left .., in_month⟩

/-- The date of a number of days is a day of the calendar. -/
theorem isValid_dateOf (days : Int) : (dateOf days).IsValid :=
  (dateOf_spec days).2

/-- Every number of days has a date, and is the number of it. -/
theorem dayNumber_dateOf (days : Int) : (dateOf days).dayNumber = days := by
  obtain ⟨parts, valid⟩ := dateOf_spec days
  have epoch : daysBeforeYear 1970 = epochDays := by decide
  rw [valid.dayNumber_eq, ← parts, epoch, Int.add_sub_cancel]

-- The year 2000 has a 29th of February, and 1900 has none.
example : dateOf 11016 = ⟨2000, 2, 29⟩ ∧ dateOf (-25509) = ⟨1900, 2, 28⟩ ∧
    dateOf (-25508) = ⟨1900, 3, 1⟩ := by
  decide

/-- A number of days has a date in the years in which its day is. -/
theorem year_dateOf {days first later : Int} (begun : daysBeforeYear first ≤ days + epochDays)
    (before : days + epochDays < daysBeforeYear later) :
    first ≤ (dateOf days).year ∧ (dateOf days).year < later := by
  obtain ⟨parts, valid⟩ := dateOf_spec days
  have in_year := valid.sum_take_lt_year
  have first_day := valid.day
  constructor
  · by_contra earlier
    have gone := daysBeforeYear_mono (show (dateOf days).year + 1 ≤ first by omega)
    omega
  · by_contra not_before
    have gone := daysBeforeYear_mono (show later ≤ (dateOf days).year by omega)
    omega

end Calendar
end RequestLog
