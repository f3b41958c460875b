/-
# Setting the week

The week setters answer to the numbers of weeks that are counted from the week
of the first day of a month or a year (`Date.weekFrom`). What they give lies in
the week asked for; the week that a date-time is in already gives the date-time
itself; and within the month or the year a second week replaces the first
(`WeekLaws`, `setWeek_laws`). A month reaches into six weeks at most
(`Date.weekFrom_firstOfMonth_bounds`).

The date of a week is known on a calendar without ends (`Date.inWeek`), and a
setter should fail just if this date is not supported. But it counts from a
Sunday, and the first supported date is a Thursday
(`Date.supported_weekStart_iff`): the week of the first day of the first month
starts on a date without date-times, and so does that of the first year. From
there on nothing can be counted, and every week of this month and of this year
is refused, also those that lie months later (`setWeek_eq_none_iff`).

Key definitions: `WeekLaws`, `Edge.weekNumber`.
Key theorems: `weekLaws_setWeekFrom?`, `Date.weekFrom_firstOfMonth_bounds`,
`setWeek_laws`, `Date.supported_weekStart_iff`, `setWeek_eq_none_iff`.
-/
import TimePhrase.Proofs.Calendar.WeekNumber
import TimePhrase.Proofs.Errors

namespace TimePhrase

variable {dt moved : DateTime} {week : Nat} {container : TimeUnit}

/-! ### The laws -/

/-- The laws of a setter for the number of a week, where the weeks of a unit
are numbered from that of its first day. -/
structure WeekLaws (container : TimeUnit) (firstDay : Date → Date)
    (setWeek? : DateTime → Nat → Option DateTime) : Prop where
  /-- The weekday and the time of day are kept. -/
  kept : ∀ {dt moved week}, setWeek? dt week = some moved →
    moved.date.weekday = dt.date.weekday ∧ moved.time = dt.time
  /-- The week reached is so many weeks after that of the first day. -/
  reached : ∀ {dt moved week}, setWeek? dt week = some moved →
    moved.date.weekStart = (firstDay dt.date).weekStart.addDays (7 * ((week : Int) - 1))
  /-- Within the unit, the number that was set is the number read. -/
  put_get : ∀ {dt moved week}, setWeek? dt week = some moved → SameUnit container moved dt →
    (firstDay moved.date).weekFrom moved.date = week
  /-- The number that is read can be set without a change. -/
  get_put : ∀ {dt moved week}, setWeek? dt week = some moved →
    (firstDay dt.date).weekFrom dt.date = week → moved = dt
  /-- Within the unit, the number set last counts. -/
  put_put : ∀ {dt moved week}, setWeek? dt week = some moved → SameUnit container moved dt →
    ∀ other, setWeek? moved other = setWeek? dt other

/-- Of a date-time only the weekday and the time of day count. -/
theorem DateTime.setWeekFrom?_congr (hweekday : moved.date.weekday = dt.date.weekday)
    (htime : moved.time = dt.time) (first : Date) (week : Nat) :
    moved.setWeekFrom? first week = dt.setWeekFrom? first week := by
  rw [setWeekFrom?, setWeekFrom?, onDate?, onDate?, Date.weekday_eq_iff.mp hweekday, htime]

/-- A setter that counts from the first day of a unit obeys the laws. -/
theorem weekLaws_setWeekFrom? (firstDay : Date → Date)
    (hfirst : ∀ a b : DateTime, SameUnit container a b → firstDay a.date = firstDay b.date) :
    WeekLaws container firstDay fun dt week => dt.setWeekFrom? (firstDay dt.date) week where
  kept h := (DateTime.setWeekFrom?_eq_some_iff.mp h).2.2
  reached h := by
    obtain ⟨-, hweek, -⟩ := DateTime.setWeekFrom?_eq_some_iff.mp h
    rw [Date.eq_iff_dayNumber, Date.weekFrom_eq_iff.mp hweek, Date.dayNumber_addDays]
  put_get h hsame := by
    rw [hfirst _ _ hsame]
    exact (DateTime.setWeekFrom?_eq_some_iff.mp h).2.1
  get_put h hweek := by
    obtain ⟨-, hmoved, hweekday, htime⟩ := DateTime.setWeekFrom?_eq_some_iff.mp h
    -- both are the date with the weekday in the week
    have hmovedDate := Date.eq_inWeek_iff.mpr ⟨hmoved, hweekday⟩
    have hdate := Date.eq_inWeek_iff.mpr ⟨hweek, rfl⟩
    exact DateTime.ext (hmovedDate.trans hdate.symm) htime
  put_put h hsame other := by
    obtain ⟨-, -, hweekday, htime⟩ := DateTime.setWeekFrom?_eq_some_iff.mp h
    rw [hfirst _ _ hsame]
    exact DateTime.setWeekFrom?_congr hweekday htime _ other

theorem Date.dayNumber_firstOfMonth (d : Date) :
    d.firstOfMonth.dayNumber = d.dayNumber - d.day + 1 := by
  simp only [dayNumber, dayOfYear, firstOfMonth]
  omega

/-- A month reaches into six weeks at most. -/
theorem Date.weekFrom_firstOfMonth_bounds (d : Date) :
    1 ≤ d.firstOfMonth.weekFrom d ∧ d.firstOfMonth.weekFrom d ≤ maxWeekOfMonth := by
  have hpos := d.day_pos
  have hle := Nat.le_trans d.day_le (monthLength_le d.year d.month)
  simp only [weekFrom, dayNumber_weekStart, daysFromSunday, dayNumber_firstOfMonth, maxWeekOfMonth]
  omega

/-- **The week setters obey the laws of a setter**, in a leap second too, and the
weeks of a month have the numbers from 1 to 6. -/
theorem setWeek_laws :
    WeekLaws .month Date.firstOfMonth DateTime.setWeekOfMonth? ∧
    WeekLaws .year Date.firstOfYear DateTime.setWeekOfYear? ∧
    ∀ d : Date, 1 ≤ d.firstOfMonth.weekFrom d ∧ d.firstOfMonth.weekFrom d ≤ maxWeekOfMonth := by
  refine ⟨weekLaws_setWeekFrom? _ fun a b h => ?_, weekLaws_setWeekFrom? _ fun a b h => ?_,
    Date.weekFrom_firstOfMonth_bounds⟩
  · exact Date.ext h.1 h.2 rfl
  · exact congrArg Date.newYear h

/-- A leap second on the last of May 2015, a Sunday alone in the sixth week of
the month. -/
def DateTime.lastOfMay : DateTime :=
  (DateTime.ofFields? 2015 5 31 23 59 59 1500000000).get (by decide)

/-- From the sixth week of May to the third and back; the first week leads to a
Sunday in April. -/
theorem setWeek_laws_lastOfMay :
    ∃ third first, DateTime.lastOfMay.setWeekOfMonth? 3 = some third ∧
      third.date.firstOfMonth.weekFrom third.date = 3 ∧
      third.setWeekOfMonth? 6 = some .lastOfMay ∧
      DateTime.lastOfMay.setWeekOfMonth? 1 = some first ∧ first.date.weekday = .sun ∧
      first.date.month = 4 := by
  obtain ⟨hmonth, -, -⟩ := setWeek_laws
  have hthird : DateTime.lastOfMay.setWeekOfMonth? 3 =
      some ((DateTime.ofFields? 2015 5 10 23 59 59 1500000000).get (by decide)) := by decide
  have hfirst : DateTime.lastOfMay.setWeekOfMonth? 1 =
      some ((DateTime.ofFields? 2015 4 26 23 59 59 1500000000).get (by decide)) := by decide
  have hsame := And.intro (Eq.refl (2015 : Int)) (Eq.refl 5)
  refine ⟨_, _, hthird, hmonth.put_get hthird hsame, ?_, hfirst, (hmonth.kept hfirst).1, by decide⟩
  rw [hmonth.put_put hthird hsame 6]
  decide

/-! ### Where the setters fail -/

/-- The first supported date is a Thursday, and the first supported week starts
three days later. -/
theorem Date.supported_weekStart_iff {d : Date} (h : d.Supported) :
    d.weekStart.Supported ↔ daysBeforeYear minYear + 3 ≤ d.dayNumber := by
  have hthursday : daysBeforeYear minYear % 7 = 5 := by decide
  rw [supported_iff_dayNumber] at h ⊢
  rw [dayNumber_weekStart, daysFromSunday]
  omega

/-- The years after the first one start a year after it or later. -/
theorem Date.daysBeforeYear_of_ne_minYear {d : Date} (h : d.Supported) (hyear : d.year ≠ minYear) :
    daysBeforeYear minYear + 365 ≤ daysBeforeYear d.year := by
  have hlater : minYear < d.year := lt_of_le_of_ne h.1 (Ne.symm hyear)
  have hlength : yearLength minYear = 365 := by decide
  have hle := daysBeforeYear_add_yearLength_le hlater
  omega

theorem Date.supported_weekStart_firstOfYear_iff {d : Date} (h : d.Supported) :
    d.firstOfYear.weekStart.Supported ↔ d.year ≠ minYear := by
  have hfirst : d.firstOfYear.Supported := h
  rw [supported_weekStart_iff hfirst, firstOfYear, dayNumber_newYear]
  by_cases hyear : d.year = minYear
  · rw [hyear]
    omega
  · have hlater := daysBeforeYear_of_ne_minYear h hyear
    omega

theorem Date.supported_weekStart_firstOfMonth_iff {d : Date} (h : d.Supported) :
    d.firstOfMonth.weekStart.Supported ↔ ¬ (d.year = minYear ∧ d.month = 1) := by
  have hfirst : d.firstOfMonth.Supported := h
  have hnumber : d.firstOfMonth.dayNumber = daysBeforeYear d.year + daysBeforeMonth d.year d.month := by
    simp only [dayNumber, dayOfYear, firstOfMonth]
    omega
  rw [supported_weekStart_iff hfirst, hnumber]
  by_cases hyear : d.year = minYear
  · rcases Nat.eq_or_lt_of_le d.month_bounds.1 with hjanuary | hlater
    · have hzero : daysBeforeMonth minYear 1 = 0 := by decide
      rw [hyear, ← hjanuary, hzero]
      omega
    · have hfebruary : daysBeforeMonth minYear 2 = 31 := by decide
      have hmono : daysBeforeMonth minYear 2 ≤ daysBeforeMonth minYear d.month :=
        daysBeforeMonth_mono minYear hlater
      rw [hyear]
      omega
  · have hlater := daysBeforeYear_of_ne_minYear h hyear
    omega

theorem DateTime.setWeekFrom?_eq_none_iff {first : Date} :
    dt.setWeekFrom? first week = none ↔
      ¬ (first.inWeek dt.date week).Supported ∨ ¬ first.weekStart.Supported := by
  rw [setWeekFrom?]
  by_cases hstart : first.weekStart.Supported
  · rw [if_pos hstart, onDate?, Date.at?_eq_none_iff, or_iff_left (not_not_intro hstart)]
    rfl
  · rw [if_neg hstart]
    exact iff_of_true rfl (.inr hstart)

/-- The number of the week at an edge of a unit, whose last week has the number
`last`. -/
def Edge.weekNumber (last : Nat) : Edge → Nat
  | first => 1
  | .last => last

/-- **A week setter fails where its date is not supported, and in the first month
or the first year.** There it fails for every week, as the Sunday that it counts
from is not supported, and the phrases with weeks fail with it. -/
theorem setWeek_eq_none_iff (dt : DateTime) :
    (∀ week : Nat,
      (dt.setWeekOfMonth? week = none ↔
        ¬ (dt.date.firstOfMonth.inWeek dt.date week).Supported ∨
          dt.date.year = minYear ∧ dt.date.month = 1) ∧
      (dt.setWeekOfYear? week = none ↔
        ¬ (dt.date.firstOfYear.inWeek dt.date week).Supported ∨ dt.date.year = minYear)) ∧
    ∀ edge : Edge,
      ((Capture.firstLastWeek edge .month).apply dt = .error .outOfRange ↔
        ¬ (dt.date.firstOfMonth.inWeek dt.date (edge.weekNumber 5)).Supported ∨
          dt.date.year = minYear ∧ dt.date.month = 1) ∧
      ((Capture.firstLastWeek edge .year).apply dt = .error .outOfRange ↔
        ¬ (dt.date.firstOfYear.inWeek dt.date (edge.weekNumber 53)).Supported ∨
          dt.date.year = minYear) := by
  have hmonth : ∀ week : Nat, dt.setWeekOfMonth? week = none ↔
      ¬ (dt.date.firstOfMonth.inWeek dt.date week).Supported ∨
        dt.date.year = minYear ∧ dt.date.month = 1 := by
    intro week
    rw [DateTime.setWeekOfMonth?, DateTime.setWeekFrom?_eq_none_iff,
      Date.supported_weekStart_firstOfMonth_iff dt.supported, not_not]
  have hyear : ∀ week : Nat, dt.setWeekOfYear? week = none ↔
      ¬ (dt.date.firstOfYear.inWeek dt.date week).Supported ∨ dt.date.year = minYear := by
    intro week
    rw [DateTime.setWeekOfYear?, DateTime.setWeekFrom?_eq_none_iff,
      Date.supported_weekStart_firstOfYear_iff dt.supported, ne_eq, not_not]
  refine ⟨fun week => ⟨hmonth week, hyear week⟩, fun edge => ?_⟩
  rw [← hmonth, ← hyear]
  cases edge <;> exact ⟨elim_eq_outOfRange_iff, elim_eq_outOfRange_iff⟩

/-- A day in the middle of the first year. -/
def DateTime.juneOfFirstYear : DateTime :=
  (DateTime.ofFields? (-262143) 6 15 12 0 0 0).get (by decide)

/-- The last week of the first year is refused, though it lies in December. -/
theorem not_setWeek_eq_none_iff :
    ¬ ∀ (dt : DateTime) (week : Nat), dt.setWeekOfYear? week = none ↔
      ¬ (dt.date.firstOfYear.inWeek dt.date week).Supported := by
  intro h
  have hnone := (h .juneOfFirstYear 53).mp (by decide)
  exact hnone (by decide)

end TimePhrase
