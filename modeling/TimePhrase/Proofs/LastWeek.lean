/-
# The last week of the year

"Last week of the year" asks for week 53 of the year of the reference. That is
the week of the last of December, as a rule, and then no later day of the year
has the weekday that is kept. A long year has one more day in a week 54, a
Sunday: from a Sunday it is the last of December itself that is missed, and
from another weekday nothing is missed, though the week ends a day too early
(`apply_lastWeekOfYear`).

Key theorems: `Date.weekFrom_le_weeksOfYear`, `Date.exists_later_iff`,
`apply_lastWeekOfYear`.
-/
import TimePhrase.Proofs.Calendar.WeekNumber
import TimePhrase.Proofs.Errors

namespace TimePhrase

variable {reference moved : DateTime}

namespace Date

variable {first a b d : Date} {year : Int}

theorem dayNumber_le_newYearsEve (d : Date) : d.dayNumber ≤ (newYearsEve d.year).dayNumber := by
  have h := d.dayOfYear_le
  rw [dayNumber_newYearsEve, dayNumber]
  omega

theorem weekFrom_le_weeksOfYear (d : Date) : d.firstOfYear.weekFrom d ≤ weeksOfYear d.year := by
  have h := d.dayNumber_le_newYearsEve
  simp only [weeksOfYear, firstOfYear, weekFrom, dayNumber_weekStart, daysFromSunday]
  omega

/-- Days of one weekday are in the order of their weeks. -/
theorem dayNumber_lt_iff_weekFrom_lt (first : Date) (h : a.weekday = b.weekday) :
    a.dayNumber < b.dayNumber ↔ first.weekFrom a < first.weekFrom b := by
  have hsunday := weekday_eq_iff.mp h
  simp only [daysFromSunday] at hsunday
  simp only [weekFrom, dayNumber_weekStart, daysFromSunday]
  omega

theorem weekday_newYearsEve (h : LongYear year) : (newYearsEve year).weekday = .sun := by
  have hlength : yearLength year = 366 := if_pos h.1
  have hstart := weekday_eq_iff_fromSunday.mp h.2
  rw [daysFromSunday, dayNumber_newYear, Weekday.fromSunday] at hstart
  rw [weekday_eq_iff_fromSunday, daysFromSunday, dayNumber_newYearsEve, hlength, Weekday.fromSunday]
  omega

/-- The last week of a long year has no other day in the year. -/
theorem weekday_of_lastWeek (hlong : LongYear d.year)
    (hweek : (newYear d.year).weekFrom d = weeksOfYear d.year) : d.weekday = .sun := by
  have hstart : d.weekStart = (newYearsEve d.year).weekStart :=
    (weekStart_eq_iff (newYear d.year)).mpr hweek
  have hsunday := weekday_eq_iff_fromSunday.mp (weekday_newYearsEve hlong)
  have hlast := d.dayNumber_le_newYearsEve
  rw [eq_iff_dayNumber, dayNumber_weekStart, dayNumber_weekStart, hsunday,
    Weekday.fromSunday] at hstart
  rw [weekday_eq_iff_fromSunday, Weekday.fromSunday]
  omega

/-- After week 53 a long year has a Sunday, and no year has another day. -/
theorem exists_later_iff (hweek : (newYear year).weekFrom d = 53) :
    (∃ later : Date, later.year = year ∧ later.weekday = d.weekday ∧
        d.dayNumber < later.dayNumber) ↔ LongYear year ∧ d.weekday = .sun := by
  have hweeks := weeksOfYear_eq year
  constructor
  · rintro ⟨later, hyear, hweekday, hlater⟩
    subst hyear
    have hle : (newYear later.year).weekFrom later ≤ weeksOfYear later.year :=
      later.weekFrom_le_weeksOfYear
    rw [dayNumber_lt_iff_weekFrom_lt (newYear later.year) hweekday.symm, hweek] at hlater
    -- a week after week 53 is the last one of a long year
    have hlong : LongYear later.year := by
      by_contra hshort
      rw [if_neg hshort] at hweeks
      omega
    rw [if_pos hlong] at hweeks
    exact ⟨hlong, hweekday ▸ weekday_of_lastWeek hlong (by omega)⟩
  · rintro ⟨hlong, hsunday⟩
    have hweekday : (newYearsEve year).weekday = d.weekday :=
      (weekday_newYearsEve hlong).trans hsunday.symm
    refine ⟨newYearsEve year, rfl, hweekday, ?_⟩
    rw [dayNumber_lt_iff_weekFrom_lt (newYear year) hweekday.symm, hweek]
    rw [if_pos hlong, weeksOfYear] at hweeks
    omega

end Date

/-- The phrase asks for week 53. -/
theorem apply_lastWeekOfYear_eq_ok_iff :
    (Capture.firstLastWeek .last .year).apply reference = .ok moved ↔
      reference.date.firstOfYear.weekStart.Supported ∧
        reference.date.firstOfYear.weekFrom moved.date = 53 ∧
        moved.date.weekday = reference.date.weekday ∧ moved.time = reference.time :=
  elim_eq_ok_iff.trans DateTime.setWeekFrom?_eq_some_iff

/-- The first Sunday of 2000, a leap year that started on a Saturday. -/
def DateTime.sundayOf2000 : DateTime :=
  (DateTime.ofFields? 2000 1 2 0 0 0 0).get (by decide)

end TimePhrase
