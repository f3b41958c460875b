/-
# What lies in one unit

Two date-times lie in one unit if they share its year, month, week from Sunday
on, day, and so on down the clock (`SameUnit`). The units of each size are
numbered on without a break (`DateTime.unitNumber`), and date-times lie in one
unit just if they have its number (`DateTime.sameUnit_iff`).

A date-time keeps what another has below a unit if all that is finer is the
same (`DateTime.KeepsBelow`). Date-times that keep the same below a unit are in
the order of their units (`DateTime.instant_le_of_unitNumber_le`).

Key definitions: `SameUnit`, `DateTime.unitNumber`, `DateTime.KeepsBelow`.
Key theorems: `DateTime.sameUnit_iff`, `SameUnit.coarser`,
`DateTime.instant_le_of_unitNumber_le`.
-/
import TimePhrase.Proofs.Calendar.Instant
import TimePhrase.Proofs.Calendar.Month
import TimePhrase.Unit

namespace TimePhrase

theorem TimeUnit.eq_of_rank {a b : TimeUnit} (h : a.rank = b.rank) : a = b := by
  have ha := a.hierarchy_getElem_rank
  rw [h, b.hierarchy_getElem_rank] at ha
  exact (Option.some.inj ha).symm

variable {unit container : TimeUnit} {a b c : DateTime}

/-! ### One unit -/

/-- The date-times lie in one and the same unit of this size. -/
def SameUnit (unit : TimeUnit) (a b : DateTime) : Prop :=
  match unit with
  | .year => a.date.year = b.date.year
  | .month => a.date.year = b.date.year ∧ a.date.month = b.date.month
  | .week => a.date.weekStart = b.date.weekStart
  | .day => a.date = b.date
  | .hour => a.date = b.date ∧ a.time.hour = b.time.hour
  | .minute => a.date = b.date ∧ a.time.hour = b.time.hour ∧ a.time.minute = b.time.minute
  | .second =>
    a.date = b.date ∧ a.time.hour = b.time.hour ∧ a.time.minute = b.time.minute ∧
      a.time.second = b.time.second
  | .millisecond =>
    a.date = b.date ∧ a.time.hour = b.time.hour ∧ a.time.minute = b.time.minute ∧
      a.time.second = b.time.second ∧ a.time.nano / 1000000 = b.time.nano / 1000000

namespace DateTime

/-- The number of the unit that a date-time lies in. A second has room for 2000
milliseconds, as it may hold a leap second. -/
def unitNumber (dt : DateTime) : TimeUnit → Int
  | .year => dt.date.year
  | .month => dt.date.monthIndex
  | .week => (dt.date.dayNumber + 6) / 7
  | .day => dt.date.dayNumber
  | .hour => 24 * dt.date.dayNumber + dt.time.hour
  | .minute => 60 * (24 * dt.date.dayNumber + dt.time.hour) + dt.time.minute
  | .second => 60 * (60 * (24 * dt.date.dayNumber + dt.time.hour) + dt.time.minute) + dt.time.second
  | .millisecond =>
    2000 * (60 * (60 * (24 * dt.date.dayNumber + dt.time.hour) + dt.time.minute) + dt.time.second) +
      dt.time.nano / 1000000

theorem sameUnit_iff : SameUnit unit a b ↔ a.unitNumber unit = b.unitNumber unit := by
  cases unit with
  | year => exact Iff.rfl
  | month =>
    refine ⟨fun ⟨hyear, hmonth⟩ => ?_, Date.eq_of_monthIndex⟩
    rw [unitNumber, unitNumber, Date.monthIndex, Date.monthIndex, hyear, hmonth]
  | week =>
    rw [SameUnit, Date.eq_iff_dayNumber, Date.dayNumber_weekStart, Date.dayNumber_weekStart,
      Date.daysFromSunday, Date.daysFromSunday, unitNumber, unitNumber]
    omega
  | day => exact Date.eq_iff_dayNumber
  | hour | minute | second | millisecond =>
    have hours := And.intro a.time.hour_lt b.time.hour_lt
    have minutes := And.intro a.time.minute_lt b.time.minute_lt
    have seconds := And.intro a.time.second_lt b.time.second_lt
    have nanos := And.intro a.time.nano_lt b.time.nano_lt
    simp only [SameUnit, unitNumber, Date.eq_iff_dayNumber]
    omega

end DateTime

namespace SameUnit

theorem refl (unit : TimeUnit) (dt : DateTime) : SameUnit unit dt dt :=
  DateTime.sameUnit_iff.mpr rfl

theorem symm (h : SameUnit unit a b) : SameUnit unit b a :=
  DateTime.sameUnit_iff.mpr (DateTime.sameUnit_iff.mp h).symm

theorem trans (h : SameUnit unit a b) (h' : SameUnit unit b c) : SameUnit unit a c :=
  DateTime.sameUnit_iff.mpr ((DateTime.sameUnit_iff.mp h).trans (DateTime.sameUnit_iff.mp h'))

/-- From the day down each unit lies within one of every coarser size; a week
may reach into two months. -/
theorem coarser (h : SameUnit unit a b) (hday : TimeUnit.day.rank ≤ unit.rank)
    (hc : container.rank ≤ unit.rank) : SameUnit container a b := by
  cases unit <;> cases container <;> simp_all [SameUnit, TimeUnit.rank]

end SameUnit

/-! ### What is finer -/

namespace DateTime

/-- A date-time keeps all that another has below a unit. Below the millisecond
nothing is to be kept, but to be left out. -/
def KeepsBelow (unit : TimeUnit) (dt kept : DateTime) : Prop :=
  match unit with
  | .year => kept.date.month = dt.date.month ∧ kept.date.day = dt.date.day ∧ kept.time = dt.time
  | .month => kept.date.day = dt.date.day ∧ kept.time = dt.time
  | .week => kept.date.weekday = dt.date.weekday ∧ kept.time = dt.time
  | .day => kept.time = dt.time
  | .hour =>
    kept.time.minute = dt.time.minute ∧ kept.time.second = dt.time.second ∧
      kept.time.nano = dt.time.nano
  | .minute => kept.time.second = dt.time.second ∧ kept.time.nano = dt.time.nano
  | .second => kept.time.nano = dt.time.nano
  | .millisecond => kept.time.nano % 1000000 = 0

namespace KeepsBelow

theorem refl (hunit : unit ≠ .millisecond) (dt : DateTime) : KeepsBelow unit dt dt := by
  cases unit <;> simp_all [KeepsBelow]

theorem trans (h : KeepsBelow unit a b) (h' : KeepsBelow unit b c) : KeepsBelow unit a c := by
  cases unit <;> simp_all [KeepsBelow]

/-- What keeps the same as another keeps what that one keeps. -/
theorem congr (h : KeepsBelow unit a b) : KeepsBelow unit b c ↔ KeepsBelow unit a c := by
  cases unit <;> simp_all [KeepsBelow]

/-- What is kept below a unit is kept below a finer one; the weekday is not
told by the day of the month. -/
theorem finer {level : TimeUnit} (h : KeepsBelow unit a b) (hrank : unit.rank ≤ level.rank)
    (hweek : level ≠ .week) (hmilli : level ≠ .millisecond) : KeepsBelow level a b := by
  cases unit <;> cases level <;> simp_all [KeepsBelow, TimeUnit.rank]

/-- What keeps something below a unit keeps it again. -/
theorem right (h : KeepsBelow unit a b) : KeepsBelow unit b b := by
  by_cases hunit : unit = .millisecond
  · subst hunit
    exact h
  · exact refl hunit b

end KeepsBelow

/-- **Date-times that keep the same below a unit are in the order of their
units.** -/
theorem instant_le_of_unitNumber_le {dt : DateTime} (ha : a.time.nano < 1000000000)
    (hb : b.time.nano < 1000000000) (hka : dt.KeepsBelow unit a) (hkb : dt.KeepsBelow unit b)
    (h : a.unitNumber unit ≤ b.unitNumber unit) : a.instant ≤ b.instant := by
  have hdays : a.date.dayNumber ≤ b.date.dayNumber → a.time = b.time → a.instant ≤ b.instant := by
    intro hle htime
    rw [instant, instant, Date.instantAt, Date.instantAt, htime]
    omega
  have hmonths : a.date.monthIndex ≤ b.date.monthIndex → a.date.day = b.date.day →
      a.date.dayNumber ≤ b.date.dayNumber := by
    intro hle hday
    rcases Int.lt_or_eq_of_le hle with hlt | heq
    · exact Int.le_of_lt (Date.dayNumber_lt_of_monthIndex_lt hlt)
    · exact Int.le_of_eq (congrArg Date.dayNumber (Date.eq_of_monthIndex_of_day heq hday))
  cases unit with
  | year =>
    obtain ⟨hma, hda, hta⟩ := hka
    obtain ⟨hmb, hdb, htb⟩ := hkb
    have hyear : a.date.year ≤ b.date.year := h
    refine hdays (hmonths ?_ (hda.trans hdb.symm)) (hta.trans htb.symm)
    rw [Date.monthIndex, Date.monthIndex, hma, hmb]
    omega
  | month => exact hdays (hmonths h (hka.1.trans hkb.1.symm)) (hka.2.trans hkb.2.symm)
  | week =>
    have hsunday := Date.weekday_eq_iff.mp (hka.1.trans hkb.1.symm)
    rw [Date.daysFromSunday, Date.daysFromSunday] at hsunday
    rw [unitNumber, unitNumber] at h
    exact hdays (by omega) (hka.2.trans hkb.2.symm)
  | day => exact hdays h (Eq.trans hka (Eq.symm hkb))
  | hour | minute | second | millisecond =>
    have minutes := And.intro a.time.minute_lt b.time.minute_lt
    have seconds := And.intro a.time.second_lt b.time.second_lt
    simp only [unitNumber, KeepsBelow] at h hka hkb
    simp only [instant, Date.instantAt, TimeOfDay.secondOfDay]
    omega

end DateTime

end TimePhrase
