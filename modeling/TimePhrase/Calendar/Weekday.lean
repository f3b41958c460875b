/-
# Days of the week

Weeks start on Sunday. A weekday is known by its distance from the Sunday
that starts its week, and the weekday of a date by its day number: day 0, the
first of January of year 0, is a Saturday.

Key definitions: `Weekday`, `Weekday.fromSunday`, `Date.daysFromSunday`,
`Date.weekday`, `Date.dayOfWeek`, `Date.weekStart`.
-/
import TimePhrase.Calendar.Date

namespace TimePhrase

/-- A day of the week. -/
inductive Weekday where
  | sun | mon | tue | wed | thu | fri | sat
  deriving DecidableEq, Repr

namespace Weekday

/-- The days of a week, in order. -/
def all : List Weekday := [sun, mon, tue, wed, thu, fri, sat]

/-- The days since the Sunday that starts the week. -/
def fromSunday : Weekday → Nat
  | sun => 0
  | mon => 1
  | tue => 2
  | wed => 3
  | thu => 4
  | fri => 5
  | sat => 6

/-- The days since the Monday on or before the day. -/
def fromMonday (w : Weekday) : Nat :=
  (w.fromSunday + 6) % 7

/-- Sunday is day 1 of the week and Saturday day 7. -/
def number (w : Weekday) : Nat :=
  w.fromSunday + 1

/-- The weekday that lies `n` days after a Sunday. -/
def afterSunday (n : Nat) : Weekday :=
  match n % 7 with
  | 0 => sun
  | 1 => mon
  | 2 => tue
  | 3 => wed
  | 4 => thu
  | 5 => fri
  | _ => sat

/-- The English name. -/
def name : Weekday → String
  | sun => "Sunday"
  | mon => "Monday"
  | tue => "Tuesday"
  | wed => "Wednesday"
  | thu => "Thursday"
  | fri => "Friday"
  | sat => "Saturday"

/-- The name cut to three letters. -/
def shortName : Weekday → String
  | sun => "Sun"
  | mon => "Mon"
  | tue => "Tue"
  | wed => "Wed"
  | thu => "Thu"
  | fri => "Fri"
  | sat => "Sat"

theorem fromSunday_lt (w : Weekday) : w.fromSunday < 7 := by
  cases w <;> decide

theorem number_bounds (w : Weekday) : 1 ≤ (w.number : Int) ∧ (w.number : Int) ≤ 7 := by
  cases w <;> decide

theorem afterSunday_fromSunday (w : Weekday) : afterSunday w.fromSunday = w := by
  cases w <;> rfl

theorem fromSunday_afterSunday (n : Nat) : (afterSunday n).fromSunday = n % 7 := by
  have h : n % 7 = 0 ∨ n % 7 = 1 ∨ n % 7 = 2 ∨ n % 7 = 3 ∨ n % 7 = 4 ∨ n % 7 = 5 ∨ n % 7 = 6 := by
    omega
  rcases h with h | h | h | h | h | h | h <;> simp [afterSunday, h, fromSunday]

end Weekday

namespace Date

/-- The days since the last Sunday, 0 on a Sunday. -/
def daysFromSunday (d : Date) : Nat :=
  ((d.dayNumber + 6) % 7).toNat

/-- The weekday of a date. -/
def weekday (d : Date) : Weekday :=
  .afterSunday d.daysFromSunday

/-- The position of the date in its week, from 1 on Sunday to 7. -/
def dayOfWeek (d : Date) : Nat :=
  d.weekday.number

/-- The Sunday on or before the date. -/
def weekStart (d : Date) : Date :=
  d.addDays (-d.daysFromSunday)

theorem daysFromSunday_lt (d : Date) : d.daysFromSunday < 7 := by
  unfold daysFromSunday
  omega

theorem fromSunday_weekday (d : Date) : d.weekday.fromSunday = d.daysFromSunday := by
  rw [weekday, Weekday.fromSunday_afterSunday, Nat.mod_eq_of_lt d.daysFromSunday_lt]

theorem weekday_eq_iff_fromSunday {d : Date} {w : Weekday} :
    d.weekday = w ↔ d.daysFromSunday = w.fromSunday := by
  rw [← d.fromSunday_weekday]
  cases d.weekday <;> cases w <;> decide

theorem weekday_eq_iff {a b : Date} :
    a.weekday = b.weekday ↔ a.daysFromSunday = b.daysFromSunday := by
  rw [weekday_eq_iff_fromSunday, fromSunday_weekday]

theorem dayOfWeek_eq (d : Date) : d.dayOfWeek = d.daysFromSunday + 1 := by
  rw [dayOfWeek, Weekday.number, fromSunday_weekday]

theorem dayOfWeek_bounds (d : Date) : 1 ≤ (d.dayOfWeek : Int) ∧ (d.dayOfWeek : Int) ≤ 7 :=
  d.weekday.number_bounds

theorem dayNumber_weekStart (d : Date) :
    d.weekStart.dayNumber = d.dayNumber - d.daysFromSunday := by
  rw [weekStart, dayNumber_addDays, Int.sub_eq_add_neg]

theorem daysFromSunday_addDays (d : Date) (days : Int) :
    ((d.addDays days).daysFromSunday : Int) = (d.daysFromSunday + days) % 7 := by
  simp only [daysFromSunday, dayNumber_addDays]
  omega

end Date

end TimePhrase
