/-
# Weeks of a month and of a year

Weeks start on Sunday, and week 1 of a month or year is the one that holds its
first day. Setting a week number keeps the weekday and the time of day. It is
lenient: a week past the end of the container continues into the next one, and
week 0 lies before the first.

Key definitions: `DateTime.setWeekFrom?`, `DateTime.setWeekOfMonth?`,
`DateTime.setWeekOfYear?`.
-/
import TimePhrase.Calendar.DateTime

namespace TimePhrase

/-- The largest number of a week in a month: a month of 31 days that starts
on Friday or Saturday reaches into six weeks. -/
def maxWeekOfMonth : Nat := 6

/-- The largest number of a week in a year that the setters are asked for. -/
def maxWeekOfYear : Nat := 53

namespace DateTime

/-- The date-time moved to week `week`, counted from the week of `first`. The
Sunday that starts the count has to be supported itself. -/
def setWeekFrom? (dt : DateTime) (first : Date) (week : Nat) : Option DateTime :=
  if first.weekStart.Supported then
    dt.onDate? (first.weekStart.addDays (7 * ((week : Int) - 1) + dt.date.daysFromSunday))
  else none

/-- The date-time moved to a week of its month. -/
def setWeekOfMonth? (dt : DateTime) (week : Nat) : Option DateTime :=
  dt.setWeekFrom? dt.date.firstOfMonth week

/-- The date-time moved to a week of its year. -/
def setWeekOfYear? (dt : DateTime) (week : Nat) : Option DateTime :=
  dt.setWeekFrom? dt.date.firstOfYear week

end DateTime

end TimePhrase
