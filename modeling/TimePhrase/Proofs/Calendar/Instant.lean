/-
# Date-times on a line

A date-time outside of a leap second is told by its instant, the nanoseconds
since the first of January of year 0 (`DateTime.eq_of_instant`), and every
instant from that of the earliest date-time to that of the latest is taken
(`representable_iff`). So an exact duration is added to a date-time by adding
it to the instant: there is a result just if the sum is the instant of a
date-time, and then it is that one (`DateTime.addNanos?_eq_some_iff`,
`DateTime.addNanos?_eq_none_iff`). Whole days move the date and leave the time
of day (`DateTime.addNanos?_days`).

Key definitions: `Date.instantAt`, `DateTime.instant`, `DateTime.earliest`,
`DateTime.latest`, `Representable`.
Key theorems: `Date.supported_iff_dayNumber`, `DateTime.eq_of_instant`,
`representable_iff`, `DateTime.addNanos?_eq_some_iff`,
`DateTime.addNanos?_eq_none_iff`, `DateTime.addNanos?_days`,
`DateTime.shift_exact`.
-/
import TimePhrase.Calendar.Shift

namespace TimePhrase

/-! ### Years and day numbers -/

namespace Date

theorem dayNumber_newYear (year : Int) : (newYear year).dayNumber = daysBeforeYear year := by
  simp [dayNumber, dayOfYear, newYear, daysBeforeMonth, monthLength]

/-- A date lies in a year or after it just if it is not before the year's
first of January. -/
theorem le_year_iff {d : Date} {year : Int} :
    year ≤ d.year ↔ daysBeforeYear year ≤ d.dayNumber := by
  have h1 := d.dayOfYear_pos
  have h2 := d.dayOfYear_le
  unfold dayNumber
  constructor
  · intro h
    have hstart : daysBeforeYear year ≤ daysBeforeYear d.year := by
      unfold daysBeforeYear
      omega
    omega
  · intro h
    rcases Int.lt_or_le d.year year with hlt | hge
    · have := daysBeforeYear_add_yearLength_le hlt
      omega
    · exact hge

theorem supported_iff_dayNumber {d : Date} :
    d.Supported ↔
      daysBeforeYear minYear ≤ d.dayNumber ∧ d.dayNumber < daysBeforeYear (maxYear + 1) := by
  have hlast : d.year ≤ maxYear ↔ ¬ maxYear + 1 ≤ d.year := by omega
  rw [Supported, YearSupported, hlast, le_year_iff, le_year_iff, Int.not_le]

/-- The nanoseconds from the first of January of year 0 to a time of a day. -/
def instantAt (d : Date) (t : TimeOfDay) : Int :=
  (d.dayNumber * 86400 + t.secondOfDay) * 1000000000 + t.nano

/-- Outside of leap seconds an instant belongs to one time of one day. -/
theorem eq_of_instantAt {a b : Date} {s t : TimeOfDay} (hs : s.nano < 1000000000)
    (ht : t.nano < 1000000000) (h : a.instantAt s = b.instantAt t) : a = b ∧ s = t := by
  have h1 := s.secondOfDay_lt
  have h2 := t.secondOfDay_lt
  unfold instantAt at h
  refine ⟨eq_of_dayNumber ?_, TimeOfDay.eq_of_secondOfDay ?_ ?_⟩ <;> omega

end Date

/-! ### Instants of date-times -/

namespace DateTime

/-- The nanoseconds from the first of January of year 0 to the date-time. -/
def instant (dt : DateTime) : Int :=
  dt.date.instantAt dt.time

/-- The first date-time. -/
def earliest : DateTime where
  date := .newYear minYear
  time := .midnight
  supported := by decide

/-- The last date-time outside of a leap second. -/
def latest : DateTime where
  date := ⟨maxYear, 12, 31, by decide, by decide⟩
  time := ⟨23, 59, 59, 999999999, by decide, by decide, by decide, by decide⟩
  supported := by decide

/-- Outside of leap seconds a date-time is told by its instant. -/
theorem eq_of_instant {a b : DateTime} (ha : a.time.nano < 1000000000)
    (hb : b.time.nano < 1000000000) (h : a.instant = b.instant) : a = b := by
  obtain ⟨hdate, htime⟩ := Date.eq_of_instantAt ha hb h
  exact DateTime.ext hdate htime

end DateTime

/-- An instant within the supported years. -/
def Representable (i : Int) : Prop :=
  DateTime.earliest.instant ≤ i ∧ i ≤ DateTime.latest.instant

instance (i : Int) : Decidable (Representable i) :=
  inferInstanceAs (Decidable (_ ∧ _))

/-- The dates with date-times are those with representable instants. -/
theorem Date.supported_iff_representable {d : Date} {t : TimeOfDay} (ht : t.nano < 1000000000) :
    d.Supported ↔ Representable (d.instantAt t) := by
  have hfirst : DateTime.earliest.instant = daysBeforeYear minYear * 86400000000000 := by decide
  have hlast : DateTime.latest.instant = daysBeforeYear (maxYear + 1) * 86400000000000 - 1 := by
    decide
  have hs := t.secondOfDay_lt
  rw [supported_iff_dayNumber, Representable, hfirst, hlast, instantAt]
  constructor <;> rintro ⟨h1, h2⟩ <;> constructor <;> omega

/-- Every representable instant is that of a date-time outside of leap
seconds, and no other instant is. -/
theorem representable_iff {i : Int} :
    Representable i ↔ ∃ dt : DateTime, dt.time.nano < 1000000000 ∧ dt.instant = i := by
  constructor
  · intro h
    have htotal := TimeOfDay.carry_total 0 i
    have hnano := TimeOfDay.nano_carry_lt 0 i
    have hi : (Date.ofDayNumber (TimeOfDay.carry 0 i).1).instantAt (TimeOfDay.carry 0 i).2 = i := by
      rw [Date.instantAt, Date.dayNumber_ofDayNumber]
      omega
    exact ⟨⟨_, _, (Date.supported_iff_representable hnano).mpr (hi.symm ▸ h)⟩, hnano, hi⟩
  · rintro ⟨dt, hnano, rfl⟩
    exact (Date.supported_iff_representable hnano).mp dt.supported

/-! ### Exact durations -/

theorem TimeOfDay.nano_addNanos_lt {t : TimeOfDay} (h : t.nano < 1000000000) (amount : Int) :
    (t.addNanos amount).2.nano < 1000000000 := by
  have hl := isLeap_eq_false h
  simp only [addNanos, hl, Bool.false_eq_true, ↓reduceIte]
  exact nano_carry_lt _ _

/-- What a duration has beside its whole seconds is less than a second. -/
theorem TimeOfDay.natAbs_tmod_lt (amount : Int) :
    (amount.tmod 1000000000).natAbs < 1000000000 := by
  rw [Int.natAbs_tmod]
  exact Nat.mod_lt _ (by decide)

/-- Within a leap second too the duration is added, but for the second that is
lost where the leap second is left. -/
theorem TimeOfDay.addNanos_total_bounds (t : TimeOfDay) (amount : Int) :
    (t.secondOfDay : Int) * 1000000000 + t.nano + amount - 1000000000 ≤
        ((t.addNanos amount).1 * 86400 + (t.addNanos amount).2.secondOfDay) * 1000000000 +
          (t.addNanos amount).2.nano ∧
      ((t.addNanos amount).1 * 86400 + (t.addNanos amount).2.secondOfDay) * 1000000000 +
          (t.addNanos amount).2.nano ≤ (t.secondOfDay : Int) * 1000000000 + t.nano + amount := by
  have hsplit := Int.mul_tdiv_add_tmod amount 1000000000
  have hnano := t.nano_lt
  unfold addNanos
  dsimp only
  split
  · split
    · rw [carry_total]
      omega
    · split
      · rw [carry_total]
        omega
      · rename_i hleap hahead hback
        have hleap := isLeap_iff.mp hleap
        have hpart := natAbs_tmod_lt amount
        simp only [secondOfDay]
        omega
  · rw [carry_total]
    omega

/-- In no time nothing passes, in a leap second too. -/
theorem TimeOfDay.addNanos_zero (t : TimeOfDay) : t.addNanos 0 = (0, t) := by
  cases hleap : t.isLeap with
  | true => simp [addNanos, hleap]
  | false =>
    have hnano : t.nano < 1000000000 := Nat.not_le.mp (of_decide_eq_false hleap)
    have htotal := addNanos_total hnano 0
    have hafter := nano_addNanos_lt hnano 0
    have h1 := t.secondOfDay_lt
    have h2 := (t.addNanos 0).2.secondOfDay_lt
    have htime : (t.addNanos 0).2 = t := eq_of_secondOfDay (by omega) (by omega)
    exact Prod.ext (by omega) htime

theorem Date.addDays_zero (d : Date) : d.addDays 0 = d := by
  rw [addDays, Int.add_zero, ofDayNumber_dayNumber]

namespace DateTime

/-- The day and the time of day after an exact duration have the instant that
lies so much later. -/
theorem instantAt_addNanos {dt : DateTime} (h : dt.time.nano < 1000000000) (amount : Int) :
    (dt.date.addDays (dt.time.addNanos amount).1).instantAt (dt.time.addNanos amount).2 =
      dt.instant + amount := by
  have htotal := TimeOfDay.addNanos_total h amount
  rw [instant, Date.instantAt, Date.instantAt, Date.dayNumber_addDays]
  omega

theorem addNanos?_eq_some_iff {dt moved : DateTime} (h : dt.time.nano < 1000000000) (amount : Int) :
    dt.addNanos? amount = some moved ↔
      moved.time.nano < 1000000000 ∧ moved.instant = dt.instant + amount := by
  have hnano := TimeOfDay.nano_addNanos_lt h amount
  rw [addNanos?, Date.at?_eq_some_iff, ← instantAt_addNanos h]
  constructor
  · rintro ⟨hdate, htime⟩
    rw [instant, hdate, htime]
    exact ⟨hnano, rfl⟩
  · rintro ⟨hmoved, hinstant⟩
    exact Date.eq_of_instantAt hmoved hnano hinstant

theorem addNanos?_eq_none_iff {dt : DateTime} (h : dt.time.nano < 1000000000) (amount : Int) :
    dt.addNanos? amount = none ↔ ¬ Representable (dt.instant + amount) := by
  rw [addNanos?, Date.at?_eq_none_iff, ← instantAt_addNanos h,
    Date.supported_iff_representable (TimeOfDay.nano_addNanos_lt h amount)]

theorem addNanos?_zero (dt : DateTime) : dt.addNanos? 0 = some dt := by
  rw [addNanos?, TimeOfDay.addNanos_zero, Date.at?_eq_some_iff, Date.addDays_zero]
  exact ⟨rfl, rfl⟩

/-- Whole days are counted on the calendar and leave the time of day. -/
theorem addNanos?_days {dt : DateTime} (h : dt.time.nano < 1000000000) (days : Int) :
    dt.addNanos? (days * 86400000000000) = dt.onDate? (dt.date.addDays days) := by
  have hinstant : dt.instant + days * 86400000000000 =
      (dt.date.addDays days).instantAt dt.time := by
    rw [instant, Date.instantAt, Date.instantAt, Date.dayNumber_addDays]
    omega
  rw [← instantAt_addNanos h] at hinstant
  obtain ⟨hdate, htime⟩ := Date.eq_of_instantAt (TimeOfDay.nano_addNanos_lt h _) h hinstant
  simp only [addNanos?, onDate?, hdate, htime]

/-- Units of so many days are added as days of exact length. -/
theorem shift_eq_addNanos? (dt : DateTime) {unit : TimeUnit} {length : Nat}
    (hu : unit.span = .nanos (length * 86400000000000)) (amount : Int) :
    dt.shift amount unit =
      (dt.addNanos? (amount * length * 86400000000000)).elim (.error .outOfRange) .ok := by
  rw [shift, hu, Int.mul_assoc]
  rfl

/-- A shift by a unit of fixed length adds so many lengths to the instant, and
fails just if no date-time lies there. -/
theorem shift_exact {dt : DateTime} {unit : TimeUnit} {length : Nat}
    (h : dt.time.nano < 1000000000) (hu : unit.span = .nanos length) (amount : Int) :
    (Representable (dt.instant + amount * length) → ∃ moved, dt.shift amount unit = .ok moved ∧
      moved.time.nano < 1000000000 ∧ moved.instant = dt.instant + amount * length) ∧
    (¬ Representable (dt.instant + amount * length) →
      dt.shift amount unit = .error .outOfRange) := by
  have hshift : dt.shift amount unit =
      (dt.addNanos? (amount * length)).elim (.error .outOfRange) .ok := by
    rw [shift, hu]
  rw [hshift]
  cases hmoved : dt.addNanos? (amount * length) with
  | none =>
    have hout := (addNanos?_eq_none_iff h _).mp hmoved
    exact ⟨fun hin => absurd hin hout, fun _ => rfl⟩
  | some moved =>
    refine ⟨fun _ => ⟨moved, rfl, (addNanos?_eq_some_iff h _).mp hmoved⟩, fun hout => ?_⟩
    rw [(addNanos?_eq_none_iff h _).mpr hout] at hmoved
    cases hmoved

end DateTime

end TimePhrase
