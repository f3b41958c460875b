/-
# Whole days and the time of day

A shift by days or weeks is an exact duration. From an ordinary time it counts
days on the calendar and leaves the time of day. A leap second is not counted
by it, but left: on the way ahead the time falls back into the second 59, with
the fraction kept, and on the way back it falls to the second after, which may
be the first one of a day (`DaysOn`, `DateTime.daysOn_of_shift`).

So the time of day is lost in a leap second whenever days pass
(`DaysOn.time_eq_iff`), and the date is missed by a day just if a leap second at
the end of the day is left backwards (`DaysOn.date_eq_iff`). Then yesterday is
today, and a weekday that is looked for in the past is missed too
(`shift_wholeDays`).

Key definitions: `TimeOfDay.EndsDay`, `DaysOn`.
Key theorems: `TimeOfDay.addNanos_days`, `TimeOfDay.days_of_seconds`,
`DateTime.daysOn_of_shift`, `DaysOn.date_eq_iff`, `DaysOn.time_eq_iff`, `shift_wholeDays`.
-/
import TimePhrase.Proofs.Occurrence

namespace TimePhrase

/-! ### Exact days -/

namespace TimeOfDay

/-- The time lies in a leap second, and that is the last second of the day. -/
def EndsDay (t : TimeOfDay) : Prop :=
  t.isLeap = true ∧ t.secondOfDay = 86399

instance (t : TimeOfDay) : Decidable t.EndsDay :=
  inferInstanceAs (Decidable (_ ∧ _))

/-- Nanoseconds of less than a second are not carried. -/
theorem carry_of_nano_lt (seconds nanos : Int) (hlow : 0 ≤ nanos) (hhigh : nanos < 1000000000) :
    (carry seconds nanos).1 * 86400 + (carry seconds nanos).2.secondOfDay = seconds ∧
      ((carry seconds nanos).2.nano : Int) = nanos := by
  have htotal := carry_total seconds nanos
  have hnano := nano_carry_lt seconds nanos
  omega

/-- The seconds and the nanosecond after so many days. -/
theorem addNanos_days (t : TimeOfDay) (days : Int) :
    ((t.addNanos (days * 86400000000000)).1 * 86400 +
        (t.addNanos (days * 86400000000000)).2.secondOfDay =
      days * 86400 + t.secondOfDay + if t.isLeap = true ∧ days < 0 then 1 else 0) ∧
    ((t.addNanos (days * 86400000000000)).2.nano : Int) =
      t.nano - if t.isLeap = true ∧ days ≠ 0 then 1000000000 else 0 := by
  have hsplit : days * 86400000000000 = days * 86400 * 1000000000 := by ring
  have hwhole : (days * 86400000000000).tdiv 1000000000 = days * 86400 := by
    rw [hsplit]
    exact Int.mul_tdiv_cancel _ (by decide)
  have hpart : (days * 86400000000000).tmod 1000000000 = 0 := by
    rw [hsplit]
    exact Int.mul_tmod_left _ _
  have hnano := t.nano_lt
  unfold addNanos
  simp only [hwhole, hpart, add_zero]
  by_cases hleap : t.isLeap = true
  · have hlow := isLeap_iff.mp hleap
    simp only [hleap, if_true, true_and]
    rcases Int.lt_trichotomy days 0 with hback | rfl | hahead
    · have hcarry := carry_of_nano_lt (t.secondOfDay + 1 + days * 86400) (t.nano - 1000000000)
        (by omega) (by omega)
      rw [dif_neg (by omega), if_pos (by omega), hcarry.1, hcarry.2]
      omega
    · simp
    · have hcarry := carry_of_nano_lt (t.secondOfDay + days * 86400) (t.nano - 1000000000)
        (by omega) (by omega)
      rw [dif_pos (by omega), hcarry.1, hcarry.2]
      omega
  · have hhigh := mt isLeap_iff.mpr hleap
    have hcarry := carry_of_nano_lt (t.secondOfDay + days * 86400) t.nano (by omega) (by omega)
    simp only [hleap, if_false, false_and, Bool.false_eq_true]
    rw [hcarry.1, hcarry.2]
    omega

/-- So many days pass as the seconds tell, but one less where the day ends in a
leap second that is left backwards. -/
theorem days_of_seconds {t after : TimeOfDay} {passed days : Int}
    (h : passed * 86400 + after.secondOfDay =
      days * 86400 + t.secondOfDay + if t.isLeap = true ∧ days < 0 then 1 else 0) :
    passed = days + if t.EndsDay ∧ days < 0 then 1 else 0 := by
  have hbefore := t.secondOfDay_lt
  have hafter := after.secondOfDay_lt
  by_cases hends : t.EndsDay ∧ days < 0
  · rw [if_pos ⟨hends.1.1, hends.2⟩, hends.1.2] at h
    rw [if_pos hends]
    omega
  · rw [if_neg hends]
    split at h
    · rename_i hback
      have hroom : t.secondOfDay ≠ 86399 := fun hlast => hends ⟨⟨hback.1, hlast⟩, hback.2⟩
      omega
    · omega

theorem days_addNanos (t : TimeOfDay) (days : Int) :
    (t.addNanos (days * 86400000000000)).1 = days + if t.EndsDay ∧ days < 0 then 1 else 0 :=
  days_of_seconds (t.addNanos_days days).1

end TimeOfDay

/-- What exact days make of a date-time. One second more passes where a leap
second is left backwards, and with the leap second its nanoseconds are lost. -/
structure DaysOn (days : Int) (dt moved : DateTime) : Prop where
  seconds : moved.date.dayNumber * 86400 + moved.time.secondOfDay =
    (dt.date.dayNumber + days) * 86400 + dt.time.secondOfDay +
      if dt.time.isLeap = true ∧ days < 0 then 1 else 0
  nano : (moved.time.nano : Int) =
    dt.time.nano - if dt.time.isLeap = true ∧ days ≠ 0 then 1000000000 else 0

variable {days amount : Int} {length : Nat} {unit : TimeUnit} {dt moved : DateTime}

theorem DateTime.daysOn_of_shift (hu : unit.span = .nanos (length * 86400000000000))
    (h : dt.shift amount unit = .ok moved) : DaysOn (amount * length) dt moved := by
  rw [shift_eq_addNanos? dt hu, elim_eq_ok_iff, addNanos?, Date.at?_eq_some_iff] at h
  obtain ⟨hseconds, hnano⟩ := dt.time.addNanos_days (amount * length)
  refine ⟨?_, h.2 ▸ hnano⟩
  rw [h.1, h.2, Date.dayNumber_addDays]
  omega

namespace DaysOn

theorem dayNumber_eq (h : DaysOn days dt moved) :
    moved.date.dayNumber =
      dt.date.dayNumber + (days + if dt.time.EndsDay ∧ days < 0 then 1 else 0) := by
  have hseconds := h.seconds
  rw [← TimeOfDay.days_of_seconds (show (moved.date.dayNumber - dt.date.dayNumber) * 86400 +
    moved.time.secondOfDay = _ by omega)]
  omega

theorem date_eq (h : DaysOn days dt moved) (hends : ¬ (dt.time.EndsDay ∧ days < 0)) :
    moved.date = dt.date.addDays days := by
  rw [Date.eq_iff_dayNumber, Date.dayNumber_addDays, h.dayNumber_eq, if_neg hends, Int.add_zero]

/-- Where the day ends with the leap second, the next day is found instead. -/
theorem date_eq_of_endsDay (h : DaysOn days dt moved) (hends : dt.time.EndsDay) (hback : days < 0) :
    moved.date = dt.date.addDays (days + 1) := by
  rw [Date.eq_iff_dayNumber, Date.dayNumber_addDays, h.dayNumber_eq, if_pos ⟨hends, hback⟩]

theorem date_eq_iff (h : DaysOn days dt moved) :
    moved.date = dt.date.addDays days ↔ ¬ (dt.time.EndsDay ∧ days < 0) := by
  refine ⟨fun hdate hends => ?_, h.date_eq⟩
  rw [h.date_eq_of_endsDay hends.1 hends.2, Date.eq_iff_dayNumber, Date.dayNumber_addDays,
    Date.dayNumber_addDays] at hdate
  omega

theorem time_eq_iff (h : DaysOn days dt moved) :
    moved.time = dt.time ↔ dt.time.isLeap = false ∨ days = 0 := by
  have hiff : dt.time.isLeap = false ∨ days = 0 ↔ ¬ (dt.time.isLeap = true ∧ days ≠ 0) := by
    rw [not_and_or, not_not, Bool.not_eq_true]
  have hseconds := h.seconds
  have hnano := h.nano
  rw [hiff]
  constructor
  · intro htime hleft
    rw [if_pos hleft, htime] at hnano
    omega
  · intro hkept
    have hback : ¬ (dt.time.isLeap = true ∧ days < 0) :=
      fun hleft => hkept ⟨hleft.1, Int.ne_of_lt hleft.2⟩
    rw [if_neg hkept] at hnano
    rw [if_neg hback] at hseconds
    have hbefore := dt.time.secondOfDay_lt
    have hafter := moved.time.secondOfDay_lt
    exact TimeOfDay.eq_of_secondOfDay (by omega) (by omega)

end DaysOn

/-! ### Days, weeks and phrases -/

/-- The units of whole days are the day and the week. -/
theorem TimeUnit.span_eq_days_iff :
    unit.span = .nanos (length * 86400000000000) ↔
      unit = .day ∧ length = 1 ∨ unit = .week ∧ length = 7 := by
  cases unit <;> simp [span] <;> omega

/-- The named weekday is found unless the way leads back from the leap second at
the end of a day. -/
theorem DaysOn.weekday_eq_iff {qualifier : Option Qualifier} {weekday : Weekday}
    (h : DaysOn (occurrenceOffset weekday.number dt.date.dayOfWeek 7 qualifier) dt moved) :
    moved.date.weekday = weekday ↔
      ¬ (dt.time.EndsDay ∧ qualifier.any Qualifier.pointsBack = true) := by
  have hnamed := (Date.isOccurrence_weekday qualifier weekday dt.date).holds
  have hback := occurrenceOffset_neg_iff qualifier weekday.number_bounds
    dt.date.dayOfWeek_bounds
  rw [← hback]
  by_cases hends : dt.time.EndsDay ∧
      occurrenceOffset weekday.number dt.date.dayOfWeek 7 qualifier < 0
  · have hdate := h.date_eq_of_endsDay hends.1 hends.2
    refine iff_of_false ?_ (not_not_intro hends)
    rw [← hnamed, Date.weekday_eq_iff, hdate, ← Int.ofNat_inj, Date.daysFromSunday_addDays,
      Date.daysFromSunday_addDays]
    omega
  · rw [h.date_eq hends]
    exact iff_of_true hnamed hends

/-- **Days and weeks are counted exactly but for leap seconds.** A shift by them
loses the time of day just if it starts in a leap second, and it misses the
date just if it leads back from a leap second that ends its day. So tomorrow is
always the next day, but yesterday and a weekday that is looked for in the past
are missed from the end of such a day, and only from there. -/
theorem shift_wholeDays (reference : DateTime) :
    (∀ (moved : DateTime) (unit : TimeUnit) (length : Nat) (amount : Int),
      unit.span = .nanos (length * 86400000000000) → reference.shift amount unit = .ok moved →
        DaysOn (amount * length) reference moved ∧
        (moved.date = reference.date.addDays (amount * length) ↔
          ¬ (reference.time.EndsDay ∧ amount < 0)) ∧
        (moved.time = reference.time ↔ reference.time.isLeap = false ∨ amount = 0)) ∧
    (∀ moved, (Capture.near .tomorrow).apply reference = .ok moved →
      moved.date = reference.date.addDays 1) ∧
    (∀ moved, (Capture.near .yesterday).apply reference = .ok moved →
      (moved.date = reference.date.addDays (-1) ↔ ¬ reference.time.EndsDay)) ∧
    ∀ qualifier weekday moved, (Capture.dayOfWeek qualifier weekday).apply reference = .ok moved →
      (moved.date.weekday = weekday ↔
        ¬ (reference.time.EndsDay ∧ qualifier.any Qualifier.pointsBack = true)) := by
  have hday : TimeUnit.day.span = .nanos (1 * 86400000000000) := rfl
  refine ⟨?_, ?_, ?_, ?_⟩
  · intro moved unit length amount hunit h
    have hdays := DateTime.daysOn_of_shift hunit h
    have hlength : 0 < (length : Int) := by
      rcases TimeUnit.span_eq_days_iff.mp hunit with ⟨-, rfl⟩ | ⟨-, rfl⟩ <;> decide
    have hback : amount * length < 0 ↔ amount < 0 := by
      rw [mul_neg_iff]
      omega
    have hzero : amount * length = 0 ↔ amount = 0 := by
      rw [Int.mul_eq_zero]
      omega
    refine ⟨hdays, ?_, ?_⟩
    · rw [hdays.date_eq_iff, hback]
    · rw [hdays.time_eq_iff, hzero]
  · intro moved h
    have hdays := DateTime.daysOn_of_shift hday h
    exact hdays.date_eq fun hback => absurd hback.2 (by decide)
  · intro moved h
    have hdays := DateTime.daysOn_of_shift hday h
    exact hdays.date_eq_iff.trans (not_congr (and_iff_left (by decide)))
  · intro qualifier weekday moved h
    have hdays := DateTime.daysOn_of_shift hday h
    rw [Nat.cast_one, Int.mul_one] at hdays
    exact hdays.weekday_eq_iff

/-- The leap second at the end of June 2015, a Tuesday. -/
def DateTime.june2015 : DateTime :=
  (DateTime.ofFields? 2015 6 30 23 59 59 1500000000).get (by decide)

/-- From the leap second a week ahead loses the time of day, yesterday is today,
and the last Tuesday is a Wednesday; tomorrow is the next day. -/
theorem shift_wholeDays_june2015 :
    (∃ moved, DateTime.june2015.shift 1 .week = .ok moved ∧
      moved.date = DateTime.june2015.date.addDays 7 ∧ moved.time ≠ DateTime.june2015.time) ∧
    (∃ moved, (Capture.near .tomorrow).apply .june2015 = .ok moved ∧
      moved.date = DateTime.june2015.date.addDays 1) ∧
    (∃ moved, (Capture.near .yesterday).apply .june2015 = .ok moved ∧
      moved.date ≠ DateTime.june2015.date.addDays (-1)) ∧
    ∃ moved, (Capture.dayOfWeek (some .last) .tue).apply .june2015 = .ok moved ∧
      moved.date.weekday ≠ .tue := by
  obtain ⟨hshift, htomorrow, hyesterday, hweekday⟩ := shift_wholeDays .june2015
  have hweek : DateTime.june2015.shift 1 .week =
      .ok ((DateTime.ofFields? 2015 7 7 23 59 59 500000000).get (by decide)) := by decide
  have hnext : (Capture.near .tomorrow).apply .june2015 =
      .ok ((DateTime.ofFields? 2015 7 1 23 59 59 500000000).get (by decide)) := by decide
  have hlast : (Capture.near .yesterday).apply .june2015 =
      .ok ((DateTime.ofFields? 2015 6 30 0 0 0 500000000).get (by decide)) := by decide
  have htuesday : (Capture.dayOfWeek (some .last) .tue).apply .june2015 =
      .ok ((DateTime.ofFields? 2015 6 24 0 0 0 500000000).get (by decide)) := by decide
  obtain ⟨-, hdate, htime⟩ := hshift _ .week 7 _ rfl hweek
  exact ⟨⟨_, hweek, hdate.mpr (by decide), fun h => absurd (htime.mp h) (by decide)⟩,
    ⟨_, hnext, htomorrow _ hnext⟩,
    ⟨_, hlast, fun h => (hyesterday _ hlast).mp h (by decide)⟩,
    _, htuesday, fun h => (hweekday _ _ _ htuesday).mp h (by decide)⟩

/-- From the leap second a day back leads to the same date and to another time. -/
theorem not_shift_wholeDays_june2015 :
    ¬ ∀ (dt moved : DateTime) (amount : Int), dt.shift amount .day = .ok moved →
      moved.date = dt.date.addDays amount ∧ moved.time = dt.time := by
  intro h
  have hmoved : DateTime.june2015.shift (-1) .day =
      .ok ((DateTime.ofFields? 2015 6 30 0 0 0 500000000).get (by decide)) := by decide
  have hdate := (h _ _ _ hmoved).1
  exact absurd (Date.eq_iff_dayNumber.mp hdate) (by decide)

end TimePhrase
