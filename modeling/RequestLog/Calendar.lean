import RequestLog.Decimal.Digits

/-!
# Instants and their dates

An instant is a whole number of microseconds since the beginning of 1970 in universal time.  Its
date is found by dividing days into cycles of 400, 100, 4 and 1 years; the last year of a cycle may
have one day more than the others, so the quotients of the 100-year and the one-year step stop at
three.  An instant has two texts: a sortable one to the millisecond and the one of the web to the
second.
-/

namespace RequestLog

/-- Microseconds since the beginning of 1970 in universal time. -/
structure Instant where
  /-- The count; negative before 1970. -/
  micros : Int
  deriving DecidableEq, Repr, Inhabited

/-- A day of the Gregorian calendar. -/
structure Date where
  /-- The year; one is the first year of the era. -/
  year : Int
  /-- The month, from one to twelve. -/
  month : Nat
  /-- The day of the month, from one. -/
  day : Nat
  deriving DecidableEq, Repr

namespace Calendar

/-- A year has a 29th of February. -/
def isLeap (year : Int) : Bool :=
  year % 4 = 0 && (year % 100 ≠ 0 || year % 400 = 0)

/-- The lengths of the months. -/
def monthLengths (leap : Bool) : List Nat :=
  [31, if leap then 29 else 28, 31, 30, 31, 30, 31, 31, 30, 31, 30, 31]

/-- The full months that pass within a number of days, and the days left over. -/
def monthsWithin : List Nat → Nat → Nat × Nat
  | [], days => (0, days)
  | length :: lengths, days =>
      if days < length then (0, days)
      else
        let (months, left) := monthsWithin lengths (days - length)
        (months + 1, left)

/-- The full years that pass within a number of days of a 400-year cycle, and the days left over. -/
def yearsWithin (days : Nat) : Nat × Nat :=
  let centuries := min (days / 36524) 3
  let inCentury := days - centuries * 36524
  let inFour := inCentury % 1461
  let years := min (inFour / 365) 3
  (centuries * 100 + inCentury / 1461 * 4 + years, inFour - years * 365)

/-- Days from the first day of the era to the beginning of 1970. -/
def epochDays : Int := 719162

/-- The date of a number of days since the beginning of 1970. -/
def dateOf (days : Int) : Date :=
  let sinceEra := days + epochDays
  let (years, dayOfYear) := yearsWithin (sinceEra % 146097).toNat
  let year := sinceEra / 146097 * 400 + years + 1
  let (months, dayOfMonth) := monthsWithin (monthLengths (isLeap year)) dayOfYear
  { year := year, month := months + 1, day := dayOfMonth + 1 }

/-- Names of the days of the week; the first day of the era is the first of them. -/
def weekdayNames : List String :=
  ["Mon", "Tue", "Wed", "Thu", "Fri", "Sat", "Sun"]

/-- Names of the months. -/
def monthNames : List String :=
  ["Jan", "Feb", "Mar", "Apr", "May", "Jun", "Jul", "Aug", "Sep", "Oct", "Nov", "Dec"]

/-- The name of the weekday of a number of days since the beginning of 1970. -/
def weekdayOf (days : Int) : String :=
  weekdayNames.getD ((days + epochDays) % 7).toNat ""

/-- A number with at least so many digits. -/
def padded (width n : Nat) : String :=
  String.ofList (Decimal.paddedText width n)

end Calendar

namespace Instant

open Calendar

/-- Whole days since the beginning of 1970. -/
def days (instant : Instant) : Int :=
  instant.micros / 86400000000

/-- Microseconds since the beginning of the day. -/
def microsOfDay (instant : Instant) : Nat :=
  (instant.micros % 86400000000).toNat

/-- The day of an instant. -/
def date (instant : Instant) : Date :=
  dateOf instant.days

/-- Hours, minutes and seconds with colons between them. -/
def timeText (instant : Instant) : String :=
  let seconds := instant.microsOfDay / 1000000
  padded 2 (seconds / 3600) ++ ":" ++ padded 2 (seconds / 60 % 60) ++ ":" ++ padded 2 (seconds % 60)

/-- Year, month and day with hyphens between them. -/
def dateText (instant : Instant) : String :=
  let date := instant.date
  padded 4 date.year.toNat ++ "-" ++ padded 2 date.month ++ "-" ++ padded 2 date.day

/-- Date and time to the millisecond, cut off and not rounded. -/
def sortableText (instant : Instant) : String :=
  instant.dateText ++ "T" ++ instant.timeText ++ "."
    ++ padded 3 (instant.microsOfDay % 1000000 / 1000)

/-- The sortable text marked as universal time by the letter Z. -/
def isoText (instant : Instant) : String :=
  instant.sortableText ++ "Z"

/-- The sortable text marked as universal time by an offset of zero. -/
def offsetText (instant : Instant) : String :=
  instant.sortableText ++ "+00:00"

/-- The date of the web: weekday, day, month, year and time to the second. -/
def webText (instant : Instant) : String :=
  let date := instant.date
  weekdayOf instant.days ++ ", " ++ padded 2 date.day ++ " "
    ++ monthNames.getD (date.month - 1) "" ++ " " ++ padded 4 date.year.toNat ++ " "
    ++ instant.timeText ++ " GMT"

end Instant
end RequestLog
