/-
# Fields of a date-time

A field is one number of a date-time that can be read, bounded and set while
the others are kept. `DateTime.moveToEdge` moves a date-time to the first or
last unit inside a container: it walks down the units, sets every field below
the container to its smallest or largest value, and stops once the unit itself
is set, so that each bound is taken after the coarser fields have settled.

Key definitions: `CalendarField`, `CalendarField.ofUnit?`,
`CalendarField.minimum`, `CalendarField.maximum`, `DateTime.setField?`,
`Edge`, `DateTime.moveToEdge`.
-/
import TimePhrase.Calendar.Shift

namespace TimePhrase

/-- A number of a date-time that can be set. -/
inductive CalendarField where
  | month | dayOfWeek | dayOfMonth | dayOfYear | hourOfDay | minute | second | millisecond
  deriving DecidableEq, Repr

namespace CalendarField

/-- The field a unit stands for inside a container. A day is counted in the
week, the year or, inside all else, the month. Years and weeks are no fields. -/
def ofUnit? (unit container : TimeUnit) : Option CalendarField :=
  match unit with
  | .year | .week => none
  | .month => some month
  | .day => match container with
    | .week => some dayOfWeek
    | .year => some dayOfYear
    | _ => some dayOfMonth
  | .hour => some hourOfDay
  | .minute => some minute
  | .second => some second
  | .millisecond => some millisecond

/-- The smallest value of a field. -/
def minimum : CalendarField → Nat
  | month | dayOfWeek | dayOfMonth | dayOfYear => 1
  | hourOfDay | minute | second | millisecond => 0

/-- The largest value of a field, given the other fields of the date-time. -/
def maximum (field : CalendarField) (dt : DateTime) : Nat :=
  match field with
  | month => 12
  | dayOfWeek => 7
  | dayOfMonth => monthLength dt.date.year dt.date.month
  | dayOfYear => yearLength dt.date.year
  | hourOfDay => 23
  | minute => 59
  | second => 59
  | millisecond => 999

end CalendarField

namespace DateTime

/-! ### Setting a field -/

/-- The same date with another month, the day pinned to its length. -/
def setMonth? (dt : DateTime) (month : Nat) : Option DateTime :=
  if h : 1 ≤ month ∧ month ≤ 12 then
    dt.onDate? (.pinned dt.date.year month dt.date.day h dt.date.day_pos)
  else none

/-- The same date with another day of the month. -/
def setDay? (dt : DateTime) (day : Nat) : Option DateTime := do
  dt.onDate? (← Date.ofFields? dt.date.year dt.date.month day)

/-- Another day of the same year. -/
def setDayOfYear? (dt : DateTime) (day : Nat) : Option DateTime := do
  dt.onDate? (← Date.ofDayOfYear? dt.date.year day)

/-- Another day of the same week, by its number from Sunday. The date-time is
moved by whole days of exact length. -/
def setDayOfWeek? (dt : DateTime) (day : Nat) : Option DateTime :=
  dt.addNanos? (((day : Int) - dt.date.dayOfWeek) * 86400000000000)

/-- The same date-time with another hour. -/
def setHour? (dt : DateTime) (hour : Nat) : Option DateTime :=
  if h : hour < 24 then some { dt with time := { dt.time with hour, hour_lt := h } } else none

/-- The same date-time with another minute. -/
def setMinute? (dt : DateTime) (minute : Nat) : Option DateTime :=
  if h : minute < 60 then some { dt with time := { dt.time with minute, minute_lt := h } } else none

/-- The same date-time with another second; the nanosecond stays, also that of
a leap second. -/
def setSecond? (dt : DateTime) (second : Nat) : Option DateTime :=
  if h : second < 60 then some { dt with time := { dt.time with second, second_lt := h } } else none

/-- The same date-time with another nanosecond. -/
def setNano? (dt : DateTime) (nano : Nat) : Option DateTime :=
  if h : nano < 2000000000 then some { dt with time := { dt.time with nano, nano_lt := h } } else none

/-- The date-time with one field set and the others kept, where that is
possible. -/
def setField? (dt : DateTime) (field : CalendarField) (value : Nat) : Option DateTime :=
  match field with
  | .month => dt.setMonth? value
  | .dayOfWeek => dt.setDayOfWeek? value
  | .dayOfMonth => dt.setDay? value
  | .dayOfYear => dt.setDayOfYear? value
  | .hourOfDay => dt.setHour? value
  | .minute => dt.setMinute? value
  | .second => dt.setSecond? value
  | .millisecond => dt.setNano? (value * 1000000)

end DateTime

/-! ### Edges -/

/-- One of the two ends of a container. -/
inductive Edge where
  | first | last
  deriving DecidableEq, Repr

/-- The value of a field at an edge. -/
def CalendarField.atEdge (field : CalendarField) (edge : Edge) (dt : DateTime) : Nat :=
  match edge with
  | .first => field.minimum
  | .last => field.maximum dt

namespace DateTime

/-- The walk down the units: those up to the container are passed over and
those below it set, weeks never, until `unit` has been set. -/
def walkToEdge (edge : Edge) (unit container : TimeUnit) :
    List TimeUnit → Bool → DateTime → Except ResolveError DateTime
  | [], _, _ => .error (.unreachable unit container)
  | level :: finer, inside, dt =>
    if level = .week then
      walkToEdge edge unit container finer (inside || level = container) dt
    else if inside then
      match CalendarField.ofUnit? level container with
      | none => .error (.unreachable unit container)
      | some field =>
        match dt.setField? field (field.atEdge edge dt) with
        | none => .error .outOfRange
        | some dt =>
          if level = unit then .ok dt else walkToEdge edge unit container finer inside dt
    else if level = unit then .error (.unreachable unit container)
    else walkToEdge edge unit container finer (level = container) dt

/-- The first or last `unit` inside the container that holds the date-time. -/
def moveToEdge (dt : DateTime) (edge : Edge) (unit container : TimeUnit) :
    Except ResolveError DateTime :=
  walkToEdge edge unit container TimeUnit.hierarchy false dt

end DateTime

end TimePhrase
