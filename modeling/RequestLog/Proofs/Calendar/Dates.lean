import RequestLog.Proofs.Calendar.Days
import RequestLog.Proofs.Registry.AnyCase
import RequestLog.Proofs.Registry.Builtins
import RequestLog.Proofs.Text.Columns

/-!
# Dates can be read back

Both texts of an instant have their parts in columns, so they are read back as the date and the time
that they show: the sortable one to the millisecond and that of the web to the second, cut off and
not rounded.  The columns of the sortable text go from the years down, so its order is that of time.
-/

namespace RequestLog

open Calendar

/-- A date and a time of day to the second, in universal time. -/
structure DateTime where
  /-- The day. -/
  date : Date
  /-- Hours since the beginning of the day. -/
  hour : Nat
  /-- Minutes since the beginning of the hour. -/
  minute : Nat
  /-- Seconds since the beginning of the minute. -/
  second : Nat
  deriving DecidableEq

namespace DateTime

/-- The day is one of the era and of the calendar, and the time one of the day. -/
def IsValid (time : DateTime) : Prop :=
  1 ≤ time.date.year ∧ time.date.IsValid ∧ time.hour < 24 ∧ time.minute < 60 ∧ time.second < 60

instance (time : DateTime) : Decidable time.IsValid :=
  inferInstanceAs (Decidable (_ ∧ _))

/-- Microseconds since the beginning of 1970. -/
def micros (time : DateTime) : Int :=
  (((time.date.dayNumber * 24 + time.hour) * 60 + time.minute) * 60 + time.second) * 1000000

/-- The columns of a sortable text in universal time: from the year down to the millisecond. -/
def isoColumns : List Column :=
  [.number 4, .mark "-", .number 2, .mark "-", .number 2, .mark "T", .number 2, .mark ":",
    .number 2, .mark ":", .number 2, .mark ".", .number 3, .mark "Z"]

/-- The columns of a date of the web: weekday, day, month and year, and the time to the second. -/
def webColumns : List Column :=
  [.name 3 ["Mon", "Tue", "Wed", "Thu", "Fri", "Sat", "Sun"], .mark ", ", .number 2, .mark " ",
    .name 3 ["Jan", "Feb", "Mar", "Apr", "May", "Jun", "Jul", "Aug", "Sep", "Oct", "Nov", "Dec"],
    .mark " ", .number 4, .mark " ", .number 2, .mark ":", .number 2, .mark ":", .number 2,
    .mark " GMT"]

/-- Read a sortable text: a date and time, and the milliseconds behind it. -/
def ofIso? (text : String) : Option (DateTime × Nat) :=
  match Column.read? isoColumns text.toList with
  | some [year, month, day, hour, minute, second, milli] =>
      let time : DateTime := ⟨⟨year, month, day⟩, hour, minute, second⟩
      if time.IsValid then some (time, milli) else none
  | _ => none

/-- Read a date of the web: the weekday, counted from zero for a Monday, and the date and time. -/
def ofWeb? (text : String) : Option (Nat × DateTime) :=
  match Column.read? webColumns text.toList with
  | some [weekday, day, month, year, hour, minute, second] =>
      let time : DateTime := ⟨⟨year, month + 1, day⟩, hour, minute, second⟩
      if time.IsValid then some (weekday, time) else none
  | _ => none

end DateTime

namespace Instant

variable {instant : Instant}

/-- The day of the instant is in the years from 1 to 9999. -/
def IsDatable (instant : Instant) : Prop :=
  (⟨1, 1, 1⟩ : Date).dayNumber ≤ instant.days ∧ instant.days < (⟨10000, 1, 1⟩ : Date).dayNumber

theorem IsDatable.year (dated : instant.IsDatable) :
    1 ≤ instant.date.year ∧ instant.date.year < 10000 := by
  have epoch : daysBeforeYear 1970 = epochDays := by decide
  have start : daysBeforeMonth (isLeap 1) 1 = 0 ∧ daysBeforeMonth (isLeap 10000) 1 = 0 := by decide
  simp only [IsDatable, Date.dayNumber, start, epoch] at dated
  exact year_dateOf (by omega) (by omega)

/-- The date and the time of day, cut off to the second. -/
def time (instant : Instant) : DateTime :=
  let seconds := instant.microsOfDay / 1000000
  ⟨instant.date, seconds / 3600, seconds / 60 % 60, seconds % 60⟩

/-- The milliseconds behind the time. -/
def milli (instant : Instant) : Nat :=
  instant.microsOfDay % 1000000 / 1000

theorem microsOfDay_lt (instant : Instant) : instant.microsOfDay < 86400000000 := by
  simp only [microsOfDay]
  omega

theorem isValid_time (dated : instant.IsDatable) : instant.time.IsValid := by
  have bound := instant.microsOfDay_lt
  refine ⟨dated.year.1, isValid_dateOf instant.days, ?_, ?_, ?_⟩ <;> simp only [time] <;> omega

/-- The time is the instant cut off to the second, and with the milliseconds it is cut off to
these. -/
theorem micros_time (instant : Instant) :
    instant.time.micros = instant.micros / 1000000 * 1000000 ∧
      instant.time.micros + instant.milli * 1000 = instant.micros / 1000 * 1000 := by
  have days : instant.time.date.dayNumber = instant.days := dayNumber_dateOf instant.days
  have parts : instant.micros = instant.days * 86400000000 + instant.microsOfDay := by
    simp only [Instant.days, microsOfDay]
    omega
  simp only [DateTime.micros, days]
  simp only [time, milli]
  omega

/-- The numbers of a sortable text: those of the date and of the time, and the milliseconds. -/
def numbers (instant : Instant) : List Nat :=
  let time := instant.time
  [time.date.year.toNat, time.date.month, time.date.day, time.hour, time.minute, time.second,
    instant.milli]

theorem toList_padded {places n : Nat} (fits : n < 10 ^ (places + 1)) :
    (padded (places + 1) n).toList = Decimal.lastDigits (places + 1) n := by
  rw [padded, String.toList_ofList, Decimal.paddedText_eq_lastDigits fits]

/-- The parts of a date and time fit into their columns. -/
theorem fits_time (dated : instant.IsDatable) :
    let time := instant.time
    time.date.year.toNat < 10 ^ 4 ∧ time.date.month < 10 ^ 2 ∧ time.date.day < 10 ^ 2 ∧
      time.hour < 10 ^ 2 ∧ time.minute < 10 ^ 2 ∧ time.second < 10 ^ 2 ∧
      instant.milli < 10 ^ 3 := by
  obtain ⟨-, date, hour, minute, second⟩ := isValid_time dated
  have year : 1 ≤ instant.time.date.year ∧ instant.time.date.year < 10000 := dated.year
  have month := date.month_le
  have day := date.day_le
  simp only [milli]
  refine ⟨?_, ?_, ?_, ?_, ?_, ?_, ?_⟩ <;> omega

/-- The sortable text shows its numbers. -/
theorem shows_isoText (dated : instant.IsDatable) :
    Column.Shows DateTime.isoColumns instant.numbers instant.isoText.toList := by
  obtain ⟨year, month, day, hour, minute, second, milli⟩ := fits_time dated
  have shown : Column.Shows DateTime.isoColumns instant.numbers _ :=
    .number year (.mark "-" (.number month (.mark "-" (.number day (.mark "T" (.number hour
      (.mark ":" (.number minute (.mark ":" (.number second (.mark "." (.number milli
        (.mark "Z" .nil)))))))))))))
  rw [← toList_padded year, ← toList_padded month, ← toList_padded day, ← toList_padded hour,
    ← toList_padded minute, ← toList_padded second, ← toList_padded milli] at shown
  simp only [isoText, sortableText, dateText, timeText, String.toList_append, List.append_assoc]
  rw [List.append_nil] at shown
  exact shown

/-- The weekday of the instant, counted from zero for a Monday; 1970 began on a Thursday. -/
def weekday (instant : Instant) : Nat :=
  ((instant.days + 3) % 7).toNat

/-- The date of the web shows the weekday, the numbers of the date and those of the time. -/
theorem shows_webText (dated : instant.IsDatable) :
    Column.Shows DateTime.webColumns
      [instant.weekday, instant.time.date.day, instant.time.date.month - 1,
        instant.time.date.year.toNat, instant.time.hour, instant.time.minute, instant.time.second]
      instant.webText.toList := by
  obtain ⟨year, -, day, hour, minute, second, -⟩ := fits_time dated
  have in_week : instant.weekday < weekdayNames.length := by
    simp only [weekday, weekdayNames, List.length_cons, List.length_nil]
    omega
  have in_year : instant.time.date.month - 1 < monthNames.length := by
    have few : instant.time.date.month ≤ 12 := (isValid_dateOf instant.days).month_le
    simp only [monthNames, List.length_cons, List.length_nil]
    omega
  have weekday_eq : weekdayOf instant.days = weekdayNames.getD instant.weekday "" := by
    rw [weekdayOf, weekday, epochDays]
    congr 2
    omega
  have shown : Column.Shows DateTime.webColumns _ _ :=
    .name_getD (by decide) (by decide) in_week (.mark ", " (.number day (.mark " "
      (.name_getD (by decide) (by decide) in_year (.mark " " (.number year (.mark " " (.number hour
        (.mark ":" (.number minute (.mark ":" (.number second (.mark " GMT" .nil)))))))))))))
  rw [← toList_padded year, ← toList_padded day, ← toList_padded hour,
    ← toList_padded minute, ← toList_padded second] at shown
  simp only [webText, weekday_eq, timeText, String.toList_append, List.append_assoc]
  rw [List.append_nil] at shown
  exact shown

/-! ## Reading -/

theorem year_toNat (dated : instant.IsDatable) :
    (instant.time.date.year.toNat : Int) = instant.time.date.year :=
  Int.toNat_of_nonneg (Int.le_trans (by decide) dated.year.1)

/-- The sortable text is read back as the time to the millisecond. -/
theorem ofIso?_isoText (dated : instant.IsDatable) :
    DateTime.ofIso? instant.isoText = some (instant.time, instant.milli) := by
  simp only [DateTime.ofIso?, Column.read?_of_shows (shows_isoText dated), numbers,
    year_toNat dated]
  exact if_pos (isValid_time dated)

/-- The date of the web is read back as the time to the second, with its weekday. -/
theorem ofWeb?_webText (dated : instant.IsDatable) :
    DateTime.ofWeb? instant.webText = some (instant.weekday, instant.time) := by
  have month : instant.time.date.month - 1 + 1 = instant.time.date.month :=
    Nat.sub_add_cancel (isValid_dateOf instant.days).month
  simp only [DateTime.ofWeb?, Column.read?_of_shows (shows_webText dated), year_toNat dated, month]
  exact if_pos (isValid_time dated)

/-! ## Order -/

variable {later : Instant}

/-- On a smaller day an instant is earlier. -/
theorem micros_lt_of_days_lt (less : instant.days < later.days) :
    instant.micros < later.micros := by
  simp only [days] at less
  omega

theorem micros_lt_of_isBefore (before : instant.date.IsBefore later.date) :
    instant.micros < later.micros := by
  have less := before.dayNumber_lt (isValid_dateOf _) (isValid_dateOf _)
  rw [date, date, dayNumber_dateOf, dayNumber_dateOf] at less
  exact micros_lt_of_days_lt less

/-- On the same day an instant with smaller microseconds is earlier. -/
theorem micros_lt_of_microsOfDay_lt (same : instant.date.dayNumber = later.date.dayNumber)
    (less : instant.microsOfDay < later.microsOfDay) : instant.micros < later.micros := by
  rw [date, date, dayNumber_dateOf, dayNumber_dateOf] at same
  simp only [days, microsOfDay] at same less
  omega

/-- The numbers of a sortable text are in the order of time. -/
theorem micros_lt_of_numbers_lt (dated : instant.IsDatable) (dated_later : later.IsDatable)
    (less : instant.numbers < later.numbers) : instant.micros < later.micros := by
  have year_eq : (instant.date.year.toNat : Int) = instant.date.year := year_toNat dated
  have later_year_eq : (later.date.year.toNat : Int) = later.date.year := year_toNat dated_later
  simp only [numbers, time, milli, List.cons_lt_cons_iff, List.not_lt_nil, and_false,
    or_false] at less
  rcases less with year | ⟨year, month | ⟨month, day | ⟨day, clock⟩⟩⟩
  · exact micros_lt_of_isBefore (Or.inl (by omega))
  · exact micros_lt_of_isBefore (Or.inr ⟨by omega, Or.inl month⟩)
  · exact micros_lt_of_isBefore (Or.inr ⟨by omega, Or.inr ⟨month, day⟩⟩)
  · have same_year : instant.date.year = later.date.year := by omega
    have same : instant.date.dayNumber = later.date.dayNumber := by
      rw [Date.dayNumber, Date.dayNumber, same_year, month, day]
    exact micros_lt_of_microsOfDay_lt same (by omega)

/-- Sortable texts are in the order of time. -/
theorem isoText_le (dated : instant.IsDatable) (dated_later : later.IsDatable)
    (before : instant.micros ≤ later.micros) : instant.isoText ≤ later.isoText := by
  have sortable : Column.AreSortable DateTime.isoColumns := by
    simp [Column.AreSortable, DateTime.isoColumns]
  have here := shows_isoText dated
  have there := shows_isoText dated_later
  rw [String.le_iff_toList_le]
  rcases lt_trichotomy instant.numbers later.numbers with less | same | greater
  · exact (Column.lt_of_shows sortable here there less).le
  · rw [← same] at there
    exact (here.unique there).le
  · exact absurd (micros_lt_of_numbers_lt dated_later dated greater) (Int.not_lt.mpr before)

end Instant

namespace Registry

variable {σ : Type} {users : UserReader} {plan : Plan} {fresh : Registry σ}

/-- A token of the date draws what the extractor of the date draws. -/
theorem evaluate_date (created : create users plan = .ok fresh) (history : List (Registration σ))
    {text : String} {args : List String}
    (read : Token.ofValue (.str text) = .ok ⟨text, "date", args⟩) (single : args.length ≤ 1)
    (view : Exchange.View) (state : σ) :
    (fresh.after history).evaluate (.str text) view state =
      (Extractor.date view args.head?, state) := by
  have builtin : (Extractor.builtins (σ := σ) users).find? "date" =
      some (.optional "date" 1 Extractor.date) := rfl
  have found := lookup?_after_create created history builtin
  rw [evaluate_of_found found read rfl]
  simp only [Extractor.optional, Extractor.stateless, if_pos single]

/-- The present instant is shown by its two texts.  Each is read back as the date and time of day
that it is cut off to: the sortable one to the millisecond, the one of the web to the second and
with its weekday.  Both show the same date and time.  The sortable texts of two instants are in the
order of time. -/
theorem dates_read_back_in_order (created : create users plan = .ok fresh)
    (history : List (Registration σ)) {now : Instant} (dated : now.IsDatable) :
    (∀ (view : Exchange.View) (state : σ), view.now = now →
      (fresh.after history).evaluate (.str "date[iso]") view state =
        (.ok (.str now.isoText), state) ∧
      ∀ text ∈ ["date", "date[ ]", "date[web]"],
        (fresh.after history).evaluate (.str text) view state = (.ok (.str now.webText), state)) ∧
    (∃ (time : DateTime) (milli weekday : Nat),
      DateTime.ofIso? now.isoText = some (time, milli) ∧
      DateTime.ofWeb? now.webText = some (weekday, time) ∧
      time.micros + milli * 1000 = now.micros / 1000 * 1000 ∧
      time.micros = now.micros / 1000000 * 1000000 ∧
      (weekday : Int) = (time.date.dayNumber + 3) % 7) ∧
    ∀ later : Instant, later.IsDatable → now.micros ≤ later.micros →
      now.isoText ≤ later.isoText := by
  refine ⟨fun view state present => ⟨?_, fun text listed => ?_⟩, ?_, fun later dated_later before =>
    Instant.isoText_le dated dated_later before⟩
  · have read : Token.ofValue (.str "date[iso]") = .ok ⟨"date[iso]", "date", ["iso"]⟩ := rfl
    rw [evaluate_date created history read (by decide), ← present]
    rfl
  · have key : Token.ofValue (.str "date") = .ok ⟨"date", "date", []⟩ := rfl
    have blank : Token.ofValue (.str "date[ ]") = .ok ⟨"date[ ]", "date", [""]⟩ := rfl
    have web : Token.ofValue (.str "date[web]") = .ok ⟨"date[web]", "date", ["web"]⟩ := rfl
    simp only [List.mem_cons, List.not_mem_nil, or_false] at listed
    rw [← present]
    rcases listed with rfl | rfl | rfl
    · exact evaluate_date created history key (by decide) view state
    · exact evaluate_date created history blank (by decide) view state
    · exact evaluate_date created history web (by decide) view state
  · obtain ⟨second, millisecond⟩ := now.micros_time
    refine ⟨now.time, now.milli, now.weekday, Instant.ofIso?_isoText dated,
      Instant.ofWeb?_webText dated, millisecond, second, ?_⟩
    have days : now.time.date.dayNumber = now.days := dayNumber_dateOf now.days
    rw [days, Instant.weekday]
    omega

/-- The last microsecond before 1970, which was a Wednesday, and the 29th of February 2000. -/
theorem dates_read_back_in_order_before_1970 :
    let fresh : Registry Unit := ⟨Extractor.builtins Credentials.userName, []⟩
    let now : Instant := ⟨-1⟩
    let later : Instant := ⟨951782400000000⟩
    let view : Exchange.View :=
      ⟨⟨.empty, .null, .null, .null, .null, .null, .null, .null, none⟩, none, now⟩
    let time : DateTime := ⟨⟨1969, 12, 31⟩, 23, 59, 59⟩
    now.IsDatable ∧ later.IsDatable ∧
      fresh.evaluate (.str "date[iso]") view () = (.ok (.str "1969-12-31T23:59:59.999Z"), ()) ∧
      fresh.evaluate (.str "date[ ]") view () = (.ok (.str "Wed, 31 Dec 1969 23:59:59 GMT"), ()) ∧
      (∃ (shown : DateTime) (milli weekday : Nat),
        DateTime.ofIso? now.isoText = some (shown, milli) ∧
        DateTime.ofWeb? now.webText = some (weekday, shown) ∧ shown = time ∧ milli = 999 ∧
        weekday = 2 ∧ shown.micros = -1000000) ∧
      now.isoText ≤ later.isoText := by
  intro fresh now later view time
  have created : create Credentials.userName [] = .ok fresh := rfl
  have dated : now.IsDatable := ⟨by decide, by decide⟩
  have dated_later : later.IsDatable := ⟨by decide, by decide⟩
  obtain ⟨evaluated, ⟨shown, milli, weekday, iso, web, -, second, -⟩, ordered⟩ :=
    dates_read_back_in_order created [] dated
  obtain ⟨iso_drawn, web_drawn⟩ := evaluated view () rfl
  have iso_text : now.isoText = "1969-12-31T23:59:59.999Z" := by decide +kernel
  have web_text : now.webText = "Wed, 31 Dec 1969 23:59:59 GMT" := by decide +kernel
  have iso_read : DateTime.ofIso? now.isoText = some (time, 999) := by
    rw [iso_text]
    decide +kernel
  have web_read : DateTime.ofWeb? now.webText = some (2, time) := by
    rw [web_text]
    decide +kernel
  obtain ⟨rfl, rfl⟩ := Prod.mk.inj (Option.some.inj (iso.symm.trans iso_read))
  obtain ⟨rfl, -⟩ := Prod.mk.inj (Option.some.inj (web.symm.trans web_read))
  rw [iso_text] at iso_drawn
  have blank := web_drawn "date[ ]" (by simp)
  rw [web_text] at blank
  exact ⟨dated, dated_later, iso_drawn, blank, ⟨time, 999, 2, iso, web, rfl, rfl, rfl, second⟩,
    ordered later dated_later (by decide)⟩

end Registry
end RequestLog
