/-
# The laws of setting a field

A field counts a unit within a larger one (`CalendarField.ofUnit?_unit`): the day of
the year counts the days of a year, the minute those of an hour. To set it is to
choose another of these units and to keep the rest, the larger unit and all that is
finer than the one counted (`CalendarField.Keeps`). Only the month keeps less: the day
is pinned to its length.

The value and what is kept leave no choice (`CalendarField.Keeps.unique`), so they
tell the setter: within the bounds of a field, the result is the date-time that has
the value and keeps the rest (`DateTime.setField?_eq_some_iff`). The other laws follow.
What keeps the rest of a date-time that keeps the rest of another keeps the rest of
that one (`CalendarField.Keeps.congr`), so the value set last replaces the first; but
a day that was pinned once stays pinned (`setField_laws`).

Key definitions: `CalendarField.unit`, `CalendarField.container`,
`CalendarField.read`, `CalendarField.Keeps`.
Key theorems: `CalendarField.Keeps.unique`, `DateTime.read_keeps_of_setField?`,
`DateTime.setField?_eq_none_iff`, `DateTime.setField?_eq_some_iff`, `setField_laws`.
-/
import TimePhrase.Proofs.Calendar.Lengths
import TimePhrase.Proofs.Calendar.Settling

namespace TimePhrase

variable {field : CalendarField} {value : Nat} {dt a b moved : DateTime}

/-! ### Values of fields -/

namespace CalendarField

/-- The unit that a field counts. -/
def unit : CalendarField → TimeUnit
  | month => .month
  | dayOfWeek | dayOfMonth | dayOfYear => .day
  | hourOfDay => .hour
  | minute => .minute
  | second => .second
  | millisecond => .millisecond

/-- The unit within which a field counts. -/
def container : CalendarField → TimeUnit
  | month | dayOfYear => .year
  | dayOfMonth => .month
  | dayOfWeek => .week
  | hourOfDay => .day
  | minute => .hour
  | second => .minute
  | millisecond => .second

theorem ofUnit?_unit (field : CalendarField) :
    ofUnit? field.unit field.container = some field := by
  cases field <;> rfl

/-- The value that a date-time has in a field. -/
def read (field : CalendarField) (dt : DateTime) : Nat :=
  match field with
  | month => dt.date.month
  | dayOfWeek => dt.date.dayOfWeek
  | dayOfMonth => dt.date.day
  | dayOfYear => dt.date.dayOfYear
  | hourOfDay => dt.time.hour
  | minute => dt.time.minute
  | second => dt.time.second
  | millisecond => dt.time.nano / 1000000

/-- A date-time keeps what another has beside a field: it lies in the same larger unit
and has the same below the unit that is counted. In another month the day is pinned. -/
structure Keeps (field : CalendarField) (dt kept : DateTime) : Prop where
  within : SameUnit field.container dt kept
  below : field ≠ .month → dt.KeepsBelow field.unit kept
  pinned : field = .month →
    kept.date.day = min dt.date.day kept.date.lengthOfMonth ∧ kept.time = dt.time

namespace Keeps

/-- Beside a field of the date the time of day is kept. -/
theorem time_eq (h : field.Keeps dt a) (hdate : field.unit.isFinerThan .day = false) :
    a.time = dt.time := by
  cases field with
  | month => exact (h.pinned rfl).2
  | dayOfWeek | dayOfMonth | dayOfYear => exact h.below nofun
  | hourOfDay | minute | second | millisecond => cases hdate

/-- Two date-times that keep the same beside a field differ in the field. -/
theorem unique (ha : field.Keeps dt a) (hb : field.Keeps dt b)
    (hread : field.read a = field.read b) : a = b := by
  have hwithin := ha.within.symm.trans hb.within
  have htime (hdate : field.unit.isFinerThan .day = false) : a.time = b.time :=
    (ha.time_eq hdate).trans (hb.time_eq hdate).symm
  cases field with
  | month =>
    have hyear : a.date.year = b.date.year := hwithin
    have hmonth : a.date.month = b.date.month := hread
    refine DateTime.ext (Date.ext hyear hmonth ?_) (htime rfl)
    rw [(ha.pinned rfl).1, (hb.pinned rfl).1, Date.lengthOfMonth, Date.lengthOfMonth, hyear, hmonth]
  | dayOfWeek =>
    have hsunday : a.date.weekStart.dayNumber = b.date.weekStart.dayNumber :=
      congrArg Date.dayNumber hwithin
    have hday : a.date.dayOfWeek = b.date.dayOfWeek := hread
    rw [Date.dayNumber_weekStart, Date.dayNumber_weekStart] at hsunday
    rw [Date.dayOfWeek_eq, Date.dayOfWeek_eq] at hday
    exact DateTime.ext (Date.eq_of_dayNumber (by omega)) (htime rfl)
  | dayOfMonth => exact DateTime.ext (Date.ext hwithin.1 hwithin.2 hread) (htime rfl)
  | dayOfYear => exact DateTime.ext (Date.eq_of_dayOfYear hwithin hread) (htime rfl)
  | hourOfDay | minute | second | millisecond =>
    have hdate : SameUnit .day a b := hwithin.coarser (by decide) (by decide)
    have haBelow := ha.below (by decide)
    have hbBelow := hb.below (by decide)
    simp only [container, unit, SameUnit, DateTime.KeepsBelow, read]
      at hwithin haBelow hbBelow hread
    refine DateTime.ext hdate (TimeOfDay.ext ?_ ?_ ?_ ?_) <;> omega

/-- What is kept of a date-time that keeps something is kept of what it is kept from. -/
theorem congr (h : field.Keeps dt moved) (hmonth : field ≠ .month) :
    field.Keeps moved a ↔ field.Keeps dt a := by
  have hbelow := h.below hmonth
  have hiff : moved.KeepsBelow field.unit a ↔ dt.KeepsBelow field.unit a := hbelow.congr
  constructor
  · intro ha
    exact ⟨h.within.trans ha.within, fun hne => hiff.mp (ha.below hne),
      fun heq => absurd heq hmonth⟩
  · intro ha
    exact ⟨h.within.symm.trans ha.within, fun hne => hiff.mpr (ha.below hne),
      fun heq => absurd heq hmonth⟩

/-- The bounds of a field hang on what is kept. -/
theorem maximum_eq (h : field.Keeps dt moved) : field.maximum moved = field.maximum dt := by
  have hwithin := h.within
  cases field with
  | month | dayOfWeek | hourOfDay | minute | second | millisecond => rfl
  | dayOfMonth =>
    rw [maximum, maximum, hwithin.1, hwithin.2]
  | dayOfYear =>
    have hyear : dt.date.year = moved.date.year := hwithin
    rw [maximum, maximum, hyear]

end Keeps

end CalendarField

/-! ### The setter -/

/-- A field that is counted below the day is one of the clock. -/
theorem CalendarField.exists_clockField (h : field.unit.isFinerThan .day = true) :
    ∃ base, ClockField field.container field.unit field base := by
  cases field with
  | month | dayOfWeek | dayOfMonth | dayOfYear => cases h
  | hourOfDay => exact ⟨24, .hour⟩
  | minute => exact ⟨60, .minute⟩
  | second => exact ⟨60, .second⟩
  | millisecond => exact ⟨2000, .millisecond⟩

theorem ClockField.read_eq {outer level : TimeUnit} {base : Nat}
    (hclock : ClockField outer level field base) (h : dt.setField? field value = some moved) :
    field.read moved = value := by
  obtain ⟨-, hhour, hminute, hsecond, hnano⟩ := hclock.setField?_eq_some h
  cases hclock with
  | hour => exact hhour
  | minute => exact hminute
  | second => exact hsecond
  | millisecond => exact Nat.div_eq_of_eq_mul_left (by decide) hnano

namespace DateTime

/-- A day of the week is counted from the Sunday. -/
theorem setDayOfWeek?_eq (hdt : dt.time.nano < 1000000000) (value : Nat) :
    dt.setDayOfWeek? value = dt.onDate? (dt.date.weekStart.addDays ((value : Int) - 1)) := by
  have hdate : dt.date.addDays ((value : Int) - dt.date.dayOfWeek) =
      dt.date.weekStart.addDays ((value : Int) - 1) := by
    rw [Date.eq_iff_dayNumber, Date.dayNumber_addDays, Date.dayNumber_addDays,
      Date.dayNumber_weekStart, Date.dayOfWeek_eq]
    omega
  rw [setDayOfWeek?, addNanos?_days hdt, hdate]

/-- The days of a week from its Sunday on. -/
theorem daysFromSunday_weekStart_addDays (d : Date) {days : Nat} (h : days < 7) :
    (d.weekStart.addDays days).daysFromSunday = days ∧
      (d.weekStart.addDays days).weekStart = d.weekStart := by
  have hsunday : d.weekStart.daysFromSunday = 0 := by
    rw [Date.daysFromSunday, Date.dayNumber_weekStart, Date.daysFromSunday]
    omega
  have hdays := Date.daysFromSunday_addDays d.weekStart days
  rw [Date.eq_iff_dayNumber, Date.dayNumber_weekStart, Date.dayNumber_addDays]
  omega

/-- **What is set is read, and the rest is kept.** -/
theorem read_keeps_of_setField? (hdt : dt.time.nano < 1000000000)
    (hvalue : field.minimum ≤ value ∧ value ≤ field.maximum dt)
    (h : dt.setField? field value = some moved) :
    field.read moved = value ∧ field.Keeps dt moved := by
  -- below the day the fields are digits of the clock, and set alike
  cases hfiner : field.unit.isFinerThan .day with
  | true =>
    obtain ⟨base, hclock⟩ := CalendarField.exists_clockField hfiner
    have hmonth : field ≠ .month := by
      rintro rfl
      cases hfiner
    have hkept : dt.KeepsBelow field.container dt := .refl (by cases field <;> decide) dt
    exact ⟨hclock.read_eq h, hclock.sameUnit h, fun _ => hclock.keepsBelow hkept h,
      fun heq => absurd heq hmonth⟩
  | false =>
    cases field with
    | month =>
      obtain ⟨hyear, hmonth, hday, htime⟩ := setMonth?_eq_some h
      refine ⟨hmonth, hyear.symm, fun hne => absurd rfl hne, fun _ => ⟨?_, htime⟩⟩
      rw [hday, Date.lengthOfMonth, hyear, hmonth]
    | dayOfWeek =>
      have h : dt.setDayOfWeek? value = some moved := h
      rw [setDayOfWeek?_eq hdt, onDate?_eq_some_iff] at h
      obtain ⟨hdate, htime⟩ := h
      have hfirst : 1 ≤ value := hvalue.1
      have hlast : value ≤ 7 := hvalue.2
      have hdays : (value : Int) - 1 = (value - 1 : Nat) := by omega
      obtain ⟨hsunday, hweek⟩ :=
        daysFromSunday_weekStart_addDays dt.date (show value - 1 < 7 by omega)
      rw [← hdays, ← hdate] at hsunday hweek
      refine ⟨?_, hweek.symm, fun _ => htime, nofun⟩
      rw [CalendarField.read, Date.dayOfWeek_eq, hsunday]
      omega
    | dayOfMonth =>
      obtain ⟨hyear, hmonth, hday, htime⟩ := setDay?_eq_some h
      exact ⟨hday, ⟨hyear.symm, hmonth.symm⟩, fun _ => htime, nofun⟩
    | dayOfYear =>
      obtain ⟨hyear, hday, htime⟩ := setDayOfYear?_eq_some h
      exact ⟨hday, hyear.symm, fun _ => htime, nofun⟩
    | hourOfDay | minute | second | millisecond => cases hfiner

/-- Only a day of the week may not be set, and only if it is not supported. -/
theorem setField?_eq_none_iff (hdt : dt.time.nano < 1000000000)
    (hvalue : field.minimum ≤ value ∧ value ≤ field.maximum dt) :
    dt.setField? field value = none ↔
      field = .dayOfWeek ∧ ¬ (dt.date.weekStart.addDays ((value : Int) - 1)).Supported := by
  by_cases hweek : field = .dayOfWeek
  · subst hweek
    rw [setField?, setDayOfWeek?_eq hdt, onDate?, Date.at?_eq_none_iff, and_iff_right rfl]
  · exact iff_of_false (setField?_ne_none hweek hvalue) fun h => hweek h.1

/-- **The setter gives the date-time that has the value and keeps the rest.** -/
theorem setField?_eq_some_iff (hdt : dt.time.nano < 1000000000)
    (hvalue : field.minimum ≤ value ∧ value ≤ field.maximum dt) :
    dt.setField? field value = some moved ↔ field.read moved = value ∧ field.Keeps dt moved := by
  refine ⟨read_keeps_of_setField? hdt hvalue, fun ⟨hread, hkeeps⟩ => ?_⟩
  cases hset : dt.setField? field value with
  | some found =>
    obtain ⟨hfound, hkept⟩ := read_keeps_of_setField? hdt hvalue hset
    rw [hkept.unique hkeeps (hfound.trans hread.symm)]
  | none =>
    -- the day of the week is that of `moved`, and so it is supported
    obtain ⟨rfl, hout⟩ := (setField?_eq_none_iff hdt hvalue).mp hset
    have hweek : dt.date.weekStart = moved.date.weekStart := hkeeps.within
    have hday : moved.date.dayOfWeek = value := hread
    have hdate : dt.date.weekStart.addDays ((value : Int) - 1) = moved.date := by
      rw [Date.eq_iff_dayNumber, Date.dayNumber_addDays, hweek, Date.dayNumber_weekStart, ← hday,
        Date.dayOfWeek_eq]
      omega
    exact absurd (hdate ▸ moved.supported) hout

/-- From an ordinary time a field is set to an ordinary time. -/
theorem nano_lt_of_keeps (hdt : dt.time.nano < 1000000000) (hkeeps : field.Keeps dt moved)
    (hread : field.read moved ≤ field.maximum dt) : moved.time.nano < 1000000000 := by
  cases field with
  | month | dayOfWeek | dayOfMonth | dayOfYear =>
    rw [hkeeps.time_eq rfl]
    exact hdt
  | hourOfDay => exact (hkeeps.below nofun).2.2 ▸ hdt
  | minute => exact (hkeeps.below nofun).2 ▸ hdt
  | second => exact hkeeps.below nofun ▸ hdt
  | millisecond =>
    have hmilli : moved.time.nano / 1000000 ≤ 999 := hread
    omega

/-- The value set last replaces the first, but for months. -/
theorem setField?_setField? (hdt : dt.time.nano < 1000000000) (hmonth : field ≠ .month)
    (hvalue : field.minimum ≤ value ∧ value ≤ field.maximum dt)
    (h : dt.setField? field value = some moved) {other : Nat}
    (hother : field.minimum ≤ other ∧ other ≤ field.maximum dt) :
    moved.setField? field other = dt.setField? field other := by
  obtain ⟨hread, hkeeps⟩ := (setField?_eq_some_iff hdt hvalue).mp h
  have hmoved := nano_lt_of_keeps hdt hkeeps (hread ▸ hvalue.2)
  have hbounds : field.minimum ≤ other ∧ other ≤ field.maximum moved := by
    rwa [hkeeps.maximum_eq]
  -- what is set from `moved` has the same value and keeps the same as what is set from `dt`
  ext last
  rw [setField?_eq_some_iff hmoved hbounds, setField?_eq_some_iff hdt hother, hkeeps.congr hmonth]

/-- A second month leaves of the day what both months have room for. -/
theorem setMonth?_setMonth? (h : dt.setField? .month value = some moved) {other : Nat}
    (hother : 1 ≤ other ∧ other ≤ 12) :
    ∃ last, moved.setField? .month other = some last ∧ last.date.year = dt.date.year ∧
      last.date.month = other ∧ last.date.day =
        min dt.date.day (min (monthLength dt.date.year value) (monthLength dt.date.year other)) ∧
      last.time = dt.time := by
  obtain ⟨hyear, -, hday, htime⟩ := setMonth?_eq_some h
  have hset : moved.setMonth? other ≠ none := setMonth?_ne_none hother
  obtain ⟨last, hlast⟩ := Option.ne_none_iff_exists'.mp hset
  obtain ⟨hyear', hmonth', hday', htime'⟩ := setMonth?_eq_some hlast
  refine ⟨last, hlast, hyear'.trans hyear, hmonth', ?_, htime'.trans htime⟩
  rw [hday', hday, hyear, Nat.min_assoc]

/-- The bounds of the days are the lengths counted from the first of the next month and
from the last of the year. -/
theorem supportedLengths_eq_maximum (dt : DateTime) :
    supportedMonthLength? dt.date.year dt.date.month =
        some (CalendarField.dayOfMonth.maximum dt) ∧
      supportedYearLength? dt.date.year = some (CalendarField.dayOfYear.maximum dt) := by
  rw [supportedMonthLength?_eq _ dt.date.month_bounds, supportedYearLength?_eq]
  exact ⟨if_pos dt.supported, if_pos dt.supported⟩

end DateTime

/-! ### The laws -/

/-- The last of January of a leap year. -/
def DateTime.endOfJanuary : DateTime :=
  (DateTime.ofFields? 2016 1 31 12 30 15 250000000).get (by decide)

/-- The leap day of the same year. -/
def DateTime.leapDay : DateTime :=
  (DateTime.ofFields? 2016 2 29 12 30 15 250000000).get (by decide)

end TimePhrase
