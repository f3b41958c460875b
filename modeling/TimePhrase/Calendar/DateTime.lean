/-
# Date-times

A time of day has hours, minutes, seconds and nanoseconds. A nanosecond of
10^9 or more marks a leap second: it lies within the second that follows, the
one a clock shows as `:60`. A `DateTime` is a date and a time of day without a
zone, within the years -262143 to 262142; dates beyond these years exist
(`Date`) but no date-time falls on them (`Date.at?`).

Key definitions: `TimeOfDay`, `TimeOfDay.secondOfDay`, `TimeOfDay.ofSeconds`,
`Date.Supported`, `DateTime`, `Date.at?`.
-/
import TimePhrase.Calendar.Weekday

namespace TimePhrase

/-! ### Times of day -/

/-- A time of day to the nanosecond. -/
@[ext]
structure TimeOfDay where
  hour : Nat
  minute : Nat
  second : Nat
  nano : Nat
  hour_lt : hour < 24
  minute_lt : minute < 60
  second_lt : second < 60
  nano_lt : nano < 2000000000
  deriving DecidableEq

namespace TimeOfDay

/-- The time with these fields, if each is within its bounds. -/
def ofFields? (hour minute second nano : Nat) : Option TimeOfDay :=
  if h : hour < 24 ∧ minute < 60 ∧ second < 60 ∧ nano < 2000000000 then
    some ⟨hour, minute, second, nano, h.1, h.2.1, h.2.2.1, h.2.2.2⟩
  else none

/-- The start of the day. -/
def midnight : TimeOfDay :=
  ⟨0, 0, 0, 0, by decide, by decide, by decide, by decide⟩

/-- Whether the time lies within a leap second. -/
def isLeap (t : TimeOfDay) : Bool :=
  1000000000 ≤ t.nano

theorem isLeap_iff {t : TimeOfDay} : t.isLeap = true ↔ 1000000000 ≤ t.nano :=
  decide_eq_true_iff

theorem isLeap_eq_false {t : TimeOfDay} (h : t.nano < 1000000000) : t.isLeap = false :=
  decide_eq_false (Nat.not_le.mpr h)

/-- The whole seconds since midnight, a leap second not counted. -/
def secondOfDay (t : TimeOfDay) : Nat :=
  3600 * t.hour + 60 * t.minute + t.second

theorem secondOfDay_lt (t : TimeOfDay) : t.secondOfDay < 86400 := by
  have := t.hour_lt
  have := t.minute_lt
  have := t.second_lt
  unfold secondOfDay
  omega

/-- The time with these seconds since midnight and this nanosecond. -/
def ofSeconds (seconds nano : Nat) (h1 : seconds < 86400)
    (h2 : nano < 2000000000) : TimeOfDay where
  hour := seconds / 3600
  minute := seconds % 3600 / 60
  second := seconds % 60
  nano := nano
  hour_lt := by omega
  minute_lt := by omega
  second_lt := by omega
  nano_lt := h2

theorem secondOfDay_ofSeconds (seconds nano : Nat) (h1 : seconds < 86400)
    (h2 : nano < 2000000000) : (ofSeconds seconds nano h1 h2).secondOfDay = seconds := by
  simp only [secondOfDay, ofSeconds]
  omega

/-- Seconds since midnight and nanosecond settle a time. -/
theorem eq_of_secondOfDay {a b : TimeOfDay} (hs : a.secondOfDay = b.secondOfDay)
    (hn : a.nano = b.nano) : a = b := by
  have := a.minute_lt
  have := a.second_lt
  have := b.minute_lt
  have := b.second_lt
  unfold secondOfDay at hs
  ext <;> omega

end TimeOfDay

/-! ### The supported years -/

/-- The first year with date-times. -/
def minYear : Int := -262143

/-- The last year with date-times. -/
def maxYear : Int := 262142

/-- Whether date-times of a year are supported. -/
def YearSupported (year : Int) : Prop :=
  minYear ≤ year ∧ year ≤ maxYear

instance (year : Int) : Decidable (YearSupported year) :=
  inferInstanceAs (Decidable (_ ∧ _))

/-- Whether date-times on the date are supported. -/
def Date.Supported (d : Date) : Prop :=
  YearSupported d.year

instance (d : Date) : Decidable d.Supported :=
  inferInstanceAs (Decidable (YearSupported _))

/-! ### Date-times -/

/-- A date and a time of day in the supported years. -/
@[ext]
structure DateTime where
  date : Date
  time : TimeOfDay
  supported : date.Supported
  deriving DecidableEq

/-- The date-time at `t` on the date, if the date is supported. -/
def Date.at? (d : Date) (t : TimeOfDay) : Option DateTime :=
  if h : d.Supported then some ⟨d, t, h⟩ else none

theorem Date.at?_eq_some_iff {d : Date} {t : TimeOfDay} {dt : DateTime} :
    d.at? t = some dt ↔ dt.date = d ∧ dt.time = t := by
  unfold Date.at?
  constructor
  · intro h
    split at h
    · cases h
      exact ⟨rfl, rfl⟩
    · cases h
  · rintro ⟨rfl, rfl⟩
    simp [dt.supported]

theorem Date.at?_eq_none_iff {d : Date} {t : TimeOfDay} : d.at? t = none ↔ ¬ d.Supported := by
  unfold Date.at?
  split <;> simp_all

namespace DateTime

/-- The date-time with these fields, if there is one. -/
def ofFields? (year : Int) (month day hour minute second nano : Nat) : Option DateTime := do
  let date ← Date.ofFields? year month day
  let time ← TimeOfDay.ofFields? hour minute second nano
  date.at? time

/-- The first of January of 1970 at midnight. -/
def epoch : DateTime where
  date := .newYear 1970
  time := .midnight
  supported := by decide

/-- The same time of day on another date, if that date is supported. -/
def onDate? (dt : DateTime) (d : Date) : Option DateTime :=
  d.at? dt.time

end DateTime

end TimePhrase
