/-
# Week numbers

The weeks from Sunday on are numbered from that of a given date, which is week
1 (`Date.weekFrom`). A date is told by the number of its week and its weekday
(`Date.eq_inWeek_iff`), and the week setters find the date with the number that
they are given and the weekday that they start from
(`DateTime.setWeekFrom?_eq_some_iff`).

The weeks that a year reaches into are 53, whatever its length and whatever
weekday it starts on, but for the leap years that start on a Saturday: their
last day is a Sunday, and starts the 54th (`weeksOfYear_eq`).

Key definitions: `Date.weekFrom`, `Date.inWeek`, `Date.newYearsEve`,
`LongYear`, `weeksOfYear`.
Key theorems: `Date.weekFrom_eq_iff`, `Date.eq_inWeek_iff`,
`DateTime.setWeekFrom?_eq_some_iff`, `weeksOfYear_eq`.
-/
import TimePhrase.Calendar.Week
import TimePhrase.Proofs.Calendar.Containment
import TimePhrase.Proofs.Calendar.Setting

namespace TimePhrase

namespace Date

variable {first a b d : Date}

/-- The number of a date's week, counted from that of `first`. -/
def weekFrom (first d : Date) : Int :=
  (d.weekStart.dayNumber - first.weekStart.dayNumber) / 7 + 1

/-- Week after week the numbers go up by one. -/
theorem weekFrom_eq_iff {week : Int} :
    first.weekFrom d = week ↔
      d.weekStart.dayNumber = first.weekStart.dayNumber + 7 * (week - 1) := by
  simp only [weekFrom, dayNumber_weekStart, daysFromSunday]
  omega

/-- The number tells the week. -/
theorem weekStart_eq_iff (first : Date) :
    a.weekStart = b.weekStart ↔ first.weekFrom a = first.weekFrom b := by
  have hb : b.weekStart.dayNumber = first.weekStart.dayNumber + 7 * (first.weekFrom b - 1) :=
    weekFrom_eq_iff.mp rfl
  rw [weekFrom_eq_iff, eq_iff_dayNumber, hb]

/-- The date with the weekday of `d` in a week counted from that of `first`, on
a calendar without ends. -/
def inWeek (first d : Date) (week : Int) : Date :=
  first.weekStart.addDays (7 * (week - 1) + d.daysFromSunday)

/-- Number and weekday tell the date. -/
theorem eq_inWeek_iff {week : Int} :
    a = first.inWeek d week ↔ first.weekFrom a = week ∧ a.weekday = d.weekday := by
  simp only [inWeek, eq_iff_dayNumber, weekday_eq_iff, weekFrom_eq_iff, dayNumber_addDays,
    dayNumber_weekStart, daysFromSunday]
  omega

end Date

/-- The week setters find the week with the number, and keep weekday and time. -/
theorem DateTime.setWeekFrom?_eq_some_iff {dt moved : DateTime} {first : Date} {week : Nat} :
    dt.setWeekFrom? first week = some moved ↔
      first.weekStart.Supported ∧ first.weekFrom moved.date = week ∧
        moved.date.weekday = dt.date.weekday ∧ moved.time = dt.time := by
  have hset : dt.setWeekFrom? first week =
      if first.weekStart.Supported then dt.onDate? (first.inWeek dt.date week) else none := rfl
  rw [hset, Option.ite_none_right_eq_some, onDate?_eq_some_iff, Date.eq_inWeek_iff, and_assoc]

/-! ### The weeks of a year -/

/-- The last of December of a year. -/
def Date.newYearsEve (year : Int) : Date :=
  ⟨year, 12, 31, Nat.le_add_left 1 30, Nat.le_refl 31⟩

theorem Date.dayNumber_newYearsEve (year : Int) :
    (newYearsEve year).dayNumber = daysBeforeYear year + yearLength year - 1 := by
  rw [← daysBeforeMonth_thirteen]
  simp [dayNumber, dayOfYear, newYearsEve, daysBeforeMonth, monthLength]

/-- The leap years that start on a Saturday, and so end on a Sunday. -/
def LongYear (year : Int) : Prop :=
  isLeapYear year = true ∧ (Date.newYear year).weekday = .sat

instance (year : Int) : Decidable (LongYear year) :=
  inferInstanceAs (Decidable (_ ∧ _))

/-- The number of weeks that a year reaches into. -/
def weeksOfYear (year : Int) : Int :=
  (Date.newYear year).weekFrom (.newYearsEve year)

/-- **A year reaches into 53 weeks, or into 54 if it is long.** -/
theorem weeksOfYear_eq (year : Int) : weeksOfYear year = if LongYear year then 54 else 53 := by
  have hsaturday : (Date.newYear year).weekday = .sat ↔ daysBeforeYear year % 7 = 0 := by
    rw [Date.weekday_eq_iff_fromSunday, Date.daysFromSunday, Date.dayNumber_newYear,
      Weekday.fromSunday]
    omega
  rw [weeksOfYear, Date.weekFrom_eq_iff, Date.dayNumber_weekStart, Date.dayNumber_weekStart,
    Date.daysFromSunday, Date.daysFromSunday, Date.dayNumber_newYear, Date.dayNumber_newYearsEve]
  by_cases hleap : isLeapYear year = true
  · have hlength : yearLength year = 366 := if_pos hleap
    by_cases hstart : daysBeforeYear year % 7 = 0
    · rw [hlength, if_pos ⟨hleap, hsaturday.mpr hstart⟩]
      omega
    · rw [hlength, if_neg fun h => hstart (hsaturday.mp h.2)]
      omega
  · have hlength : yearLength year = 365 := if_neg hleap
    rw [hlength, if_neg fun h => hleap h.1]
    omega

end TimePhrase
