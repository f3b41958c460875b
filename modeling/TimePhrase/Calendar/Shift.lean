/-
# Moving a date-time by units

Units up to the week have a fixed length and are added as so many nanoseconds
(`DateTime.addNanos?`); months and years are counted on the calendar
(`DateTime.addMonths?`), the day pinned to the length of the month reached.
The count is kept in words of 32 bits (`word?`), and the length of a month is
read off the first day of the month after it (`supportedMonthLength?`), which
the last month of all does not have. On a calendar without ends the same is
said in one line (`Date.addMonths`).

An exact duration counts no leap second, except the one the clock may show: a
time within a leap second leaves it only when whole seconds are added, when
the added part of a second runs past its end, or when whole seconds are taken
away (`TimeOfDay.addNanos`).

Key definitions: `TimeOfDay.addNanos`, `DateTime.addNanos?`,
`supportedMonthLength?`, `supportedYearLength?`, `Date.addMonths`, `word?`,
`DateTime.addMonths?`, `Span`, `TimeUnit.span`, `DateTime.shift`.
-/
import TimePhrase.Calendar.DateTime
import TimePhrase.Error

namespace TimePhrase

/-! ### Exact durations -/

namespace TimeOfDay

/-- Seconds from midnight and nanoseconds in excess of them, both possibly
out of bounds, as a number of days and a time of day. -/
def carry (seconds nanos : Int) : Int × TimeOfDay :=
  let total := seconds + nanos / 1000000000
  (total / 86400,
    .ofSeconds (total % 86400).toNat (nanos % 1000000000).toNat (by omega) (by omega))

/-- The whole of seconds and nanoseconds is kept. -/
theorem carry_total (seconds nanos : Int) :
    ((carry seconds nanos).1 * 86400 + (carry seconds nanos).2.secondOfDay) * 1000000000 +
      (carry seconds nanos).2.nano = seconds * 1000000000 + nanos := by
  simp only [carry, secondOfDay_ofSeconds]
  simp only [ofSeconds]
  omega

theorem nano_carry_lt (seconds nanos : Int) : (carry seconds nanos).2.nano < 1000000000 := by
  simp only [carry, ofSeconds]
  omega

/-- The time of day after an exact duration of nanoseconds, and the days that
pass. The duration is split, toward zero, into whole seconds and a rest. -/
def addNanos (t : TimeOfDay) (amount : Int) : Int × TimeOfDay :=
  let whole := amount.tdiv 1000000000
  let part := amount.tmod 1000000000
  if t.isLeap then
    if h : 0 < whole ∨ (0 < part ∧ 2000000000 ≤ t.nano + part) then
      carry (t.secondOfDay + whole) (t.nano - 1000000000 + part)
    else if whole < 0 then
      carry (t.secondOfDay + 1 + whole) (t.nano - 1000000000 + part)
    else
      (0, { t with
        nano := (t.nano + part).toNat
        nano_lt := by have := t.nano_lt; omega })
  else carry (t.secondOfDay + whole) (t.nano + part)

/-- Outside of a leap second the duration is added to the time of day. -/
theorem addNanos_total {t : TimeOfDay} (h : t.nano < 1000000000) (amount : Int) :
    ((t.addNanos amount).1 * 86400 + (t.addNanos amount).2.secondOfDay) * 1000000000 +
      (t.addNanos amount).2.nano = (t.secondOfDay : Int) * 1000000000 + t.nano + amount := by
  have hl := isLeap_eq_false h
  have hs := Int.mul_tdiv_add_tmod amount 1000000000
  simp only [addNanos, hl, Bool.false_eq_true, ↓reduceIte, carry_total]
  omega

end TimeOfDay

/-- The date-time an exact duration of nanoseconds later, earlier if it is
negative. -/
def DateTime.addNanos? (dt : DateTime) (amount : Int) : Option DateTime :=
  let (days, time) := dt.time.addNanos amount
  (dt.date.addDays days).at? time

/-! ### Lengths found by moving -/

/-- The number, if it is one of the signed words of 32 bits, which months and
years are counted in. -/
def word? (n : Int) : Option Int :=
  if -2147483648 ≤ n ∧ n ≤ 2147483647 then some n else none

/-- The date with these fields, if there is one in the supported years. -/
def Date.ofSupported? (year : Int) (month day : Nat) : Option Date :=
  (Date.ofFields? year month day).filter (·.Supported)

/-- The date before, if it is supported. -/
def Date.dayBefore? (d : Date) : Option Date :=
  (some (d.addDays (-1))).filter (·.Supported)

/-- The first day of the month after this one, if it is supported. -/
def firstOfNextMonth? (year : Int) (month : Nat) : Option Date :=
  if month = 12 then do Date.ofSupported? (← word? (year + 1)) 1 1
  else Date.ofSupported? year (month + 1) 1

/-- The length of a month, read off the day before the first of the next
month; the last December has no such day. Month 0 has the length of the
December before the year. -/
def supportedMonthLength? (year : Int) (month : Nat) : Option Nat :=
  match firstOfNextMonth? year month with
  | some next => next.dayBefore?.map Date.day
  | none => if month = 12 then (Date.ofSupported? year 12 31).map fun _ => 31 else none

/-- The length of a supported year, the position of its last day. -/
def supportedYearLength? (year : Int) : Option Nat :=
  (Date.ofSupported? year 12 31).map Date.dayOfYear

/-! ### Calendar months -/

/-- Day `day` of a month, pinned to its last day if the month is shorter. -/
def Date.pinned (year : Int) (month day : Nat) (hm : 1 ≤ month ∧ month ≤ 12) (hd : 1 ≤ day) :
    Date where
  year := year
  month := month
  day := min day (monthLength year month)
  day_pos := by
    have := monthLength_pos year hm.1 hm.2
    omega
  day_le := by omega

/-- The date `months` calendar months later, the day pinned to the length of
the month reached. -/
def Date.addMonths (d : Date) (months : Int) : Date :=
  let index := 12 * d.year + (d.month - 1) + months
  .pinned (index / 12) ((index % 12).toNat + 1) d.day (by omega) d.day_pos

theorem Date.year_addMonths (d : Date) (months : Int) :
    (d.addMonths months).year = (12 * d.year + (d.month - 1) + months) / 12 := rfl

theorem Date.month_addMonths (d : Date) (months : Int) :
    ((d.addMonths months).month : Int) = (12 * d.year + (d.month - 1) + months) % 12 + 1 := by
  simp only [addMonths, pinned]
  omega

theorem Date.day_addMonths (d : Date) (months : Int) :
    (d.addMonths months).day =
      min d.day (monthLength (d.addMonths months).year (d.addMonths months).month) := rfl

/-- The date-time `months` calendar months later, at the same time of day. The
months are counted from the January before, and the years follow from them. -/
def DateTime.addMonths? (dt : DateTime) (months : Int) : Option DateTime := do
  let index ← word? (dt.date.month - 1 + months)
  let year ← word? (dt.date.year + index / 12)
  let month := (index % 12).toNat + 1
  let length ← supportedMonthLength? year month
  dt.onDate? (← Date.ofFields? year month (min dt.date.day length))

/-! ### Units -/

/-- How far one unit reaches. -/
inductive Span where
  /-- So many calendar months. -/
  | months (count : Nat)
  /-- Exactly so many nanoseconds. -/
  | nanos (count : Nat)
  deriving DecidableEq, Repr

/-- The reach of a unit: months and years are counted on the calendar, all
others have a fixed length. -/
def TimeUnit.span : TimeUnit → Span
  | .year => .months 12
  | .month => .months 1
  | .week => .nanos 604800000000000
  | .day => .nanos 86400000000000
  | .hour => .nanos 3600000000000
  | .minute => .nanos 60000000000
  | .second => .nanos 1000000000
  | .millisecond => .nanos 1000000

/-- The date-time `amount` units later, earlier if `amount` is negative. -/
def DateTime.shift (dt : DateTime) (amount : Int) (unit : TimeUnit) :
    Except ResolveError DateTime :=
  let shifted := match unit.span with
    | .months count => (word? (amount * count)).bind dt.addMonths?
    | .nanos count => dt.addNanos? (amount * count)
  shifted.elim (.error .outOfRange) .ok

end TimePhrase
