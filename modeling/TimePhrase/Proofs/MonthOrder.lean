/-
# Months on and months back

Dates are in the order of their months, and within a month of their days
(`Date.le_iff_monthIndex`). Adding months adds the same number to every month, and
what it makes of the day is a minimum, so the order of dates is kept, though not
strictly: all days that the month reached is too short for fall together
(`Date.addMonths_le_addMonths`).

The way back leads to the month that the way on has started from, and nothing on it
is lost but what has been lost already: the day is as it was, or the last one of the
month on the way (`Date.addMonths_neg`). A month is at most three days shorter than
another, so that is all that a way on and back costs (`addMonths_order_and_back`).

Key theorems: `Date.le_iff_monthIndex`, `Date.addMonths_le_addMonths`,
`Date.addMonths_neg`, `Date.addMonths_neg_near`, `DateTime.addMonths?_neg`,
`addMonths_order_and_back`.
-/
import TimePhrase.Proofs.Occurrence

namespace TimePhrase

namespace Date

variable {a b : Date}

/-! ### The order of dates -/

/-- Days of one month are as far apart as their numbers. -/
theorem dayNumber_sub_of_monthIndex_eq (h : a.monthIndex = b.monthIndex) :
    b.dayNumber - a.dayNumber = b.day - a.day := by
  obtain ⟨hyear, hmonth⟩ := eq_of_monthIndex h
  rw [dayNumber, dayNumber, dayOfYear, dayOfYear, hyear, hmonth]
  omega

theorem le_iff_dayNumber : a ≤ b ↔ a.dayNumber ≤ b.dayNumber :=
  Iff.rfl

/-- The month counts first, and then the day. -/
theorem le_iff_monthIndex :
    a ≤ b ↔ a.monthIndex < b.monthIndex ∨ a.monthIndex = b.monthIndex ∧ a.day ≤ b.day := by
  rw [le_iff_dayNumber]
  rcases Int.lt_trichotomy a.monthIndex b.monthIndex with hlt | heq | hgt
  · have hdays := dayNumber_lt_of_monthIndex_lt hlt
    omega
  · have hdays := dayNumber_sub_of_monthIndex_eq heq
    omega
  · have hdays := dayNumber_lt_of_monthIndex_lt hgt
    omega

/-! ### Months on -/

theorem lengthOfMonth_eq_of_monthIndex (h : a.monthIndex = b.monthIndex) :
    a.lengthOfMonth = b.lengthOfMonth := by
  obtain ⟨hyear, hmonth⟩ := eq_of_monthIndex h
  rw [lengthOfMonth, lengthOfMonth, hyear, hmonth]

/-- **Adding months keeps the order of dates.** -/
theorem addMonths_le_addMonths (h : a ≤ b) (months : Int) :
    a.addMonths months ≤ b.addMonths months := by
  rw [le_iff_monthIndex, monthIndex_addMonths, monthIndex_addMonths]
  rcases le_iff_monthIndex.mp h with hlt | ⟨heq, hday⟩
  · exact .inl (Int.add_lt_add_right hlt months)
  · have hindex : (a.addMonths months).monthIndex = (b.addMonths months).monthIndex := by
      rw [monthIndex_addMonths, monthIndex_addMonths, heq]
    have hlength := lengthOfMonth_eq_of_monthIndex hindex
    refine .inr ⟨congrArg (· + months) heq, ?_⟩
    rw [day_addMonths, day_addMonths, ← lengthOfMonth, ← lengthOfMonth, hlength]
    exact min_le_min_right _ hday

/-! ### Months back -/

/-- Months on and back lead to the same month, and the day is pinned to the month
between. -/
theorem addMonths_neg (d : Date) (months : Int) :
    ((d.addMonths months).addMonths (-months)).monthIndex = d.monthIndex ∧
      ((d.addMonths months).addMonths (-months)).day =
        min d.day (d.addMonths months).lengthOfMonth := by
  have hindex : ((d.addMonths months).addMonths (-months)).monthIndex = d.monthIndex := by
    rw [monthIndex_addMonths, monthIndex_addMonths, Int.add_neg_cancel_right]
  have hlength := lengthOfMonth_eq_of_monthIndex hindex
  have hday : d.day ≤ d.lengthOfMonth := d.day_le
  refine ⟨hindex, ?_⟩
  calc ((d.addMonths months).addMonths (-months)).day
      = min (d.addMonths months).day d.lengthOfMonth := by
        rw [day_addMonths, ← lengthOfMonth, hlength]
    _ = min (min d.day (d.addMonths months).lengthOfMonth) d.lengthOfMonth := by
        rw [day_addMonths, ← lengthOfMonth]
    _ = min d.day (d.addMonths months).lengthOfMonth := by omega

/-- The way on and back leads to no later date, and loses at most three days, as no
month is shorter than another by more. -/
theorem addMonths_neg_near (d : Date) (months : Int) :
    (d.addMonths months).addMonths (-months) ≤ d ∧
      d ≤ ((d.addMonths months).addMonths (-months)).addDays 3 := by
  obtain ⟨hindex, hday⟩ := d.addMonths_neg months
  have hmonth := (d.addMonths months).month_bounds
  have hshortest : 28 ≤ (d.addMonths months).lengthOfMonth :=
    monthLength_pos (d.addMonths months).year hmonth.1 hmonth.2
  have hlongest := Nat.le_trans d.day_le (monthLength_le d.year d.month)
  have hdays := dayNumber_sub_of_monthIndex_eq hindex
  have hafter := dayNumber_addDays ((d.addMonths months).addMonths (-months)) 3
  constructor <;> apply le_iff_dayNumber.mpr <;> omega

end Date

namespace DateTime

variable {dt moved : DateTime} {months : Int}

theorem addMonths?_eq_some_iff :
    dt.addMonths? months = some moved ↔
      moved.date = dt.date.addMonths months ∧ moved.time = dt.time := by
  rw [addMonths?_eq_onDate?, onDate?_eq_some_iff]

/-- The way back never leaves the supported years. -/
theorem addMonths?_neg (h : dt.addMonths? months = some moved) :
    ∃ back, moved.addMonths? (-months) = some back ∧
      back.date = (dt.date.addMonths months).addMonths (-months) ∧ back.time = dt.time := by
  obtain ⟨hdate, htime⟩ := addMonths?_eq_some_iff.mp h
  have hyear := (Date.eq_of_monthIndex (dt.date.addMonths_neg months).1).1
  have hsupported : ((dt.date.addMonths months).addMonths (-months)).Supported := by
    rw [Date.Supported, hyear]
    exact dt.supported
  exact ⟨⟨_, dt.time, hsupported⟩, addMonths?_eq_some_iff.mpr ⟨by rw [hdate], htime.symm⟩, rfl, rfl⟩

end DateTime

/-- **Months keep the order of dates, and are taken back up to the pinned day.** Of
two date-times whose dates are in order, as many months later the dates are in this
order again, if both have date-times. From the month reached as many months back
always lead to a date-time. It has the month and the time of day of the start, and
its day is pinned to the length of the month between; so it is the start itself just
if the day has not been pinned on the way, and never later nor more than three days
earlier. -/
theorem addMonths_order_and_back (months : Int) :
    (∀ a b a' b' : DateTime, a.date ≤ b.date → a.addMonths? months = some a' →
      b.addMonths? months = some b' → a'.date ≤ b'.date) ∧
    ∀ dt moved : DateTime, dt.addMonths? months = some moved →
      ∃ back, moved.addMonths? (-months) = some back ∧
        (back.date.year = dt.date.year ∧ back.date.month = dt.date.month ∧
          back.date.day = min dt.date.day moved.date.lengthOfMonth ∧ back.time = dt.time) ∧
        (back = dt ↔ moved.date.day = dt.date.day) ∧
        back.date ≤ dt.date ∧ dt.date ≤ back.date.addDays 3 := by
  refine ⟨fun a b a' b' hle ha hb => ?_, fun dt moved hmoved => ?_⟩
  · rw [(DateTime.addMonths?_eq_some_iff.mp ha).1, (DateTime.addMonths?_eq_some_iff.mp hb).1]
    exact Date.addMonths_le_addMonths hle months
  · obtain ⟨back, hback, hdate, htime⟩ := DateTime.addMonths?_neg hmoved
    obtain ⟨hmovedDate, -⟩ := DateTime.addMonths?_eq_some_iff.mp hmoved
    obtain ⟨hindex, hday⟩ := dt.date.addMonths_neg months
    have hpinned : moved.date.day = min dt.date.day moved.date.lengthOfMonth := by
      rw [hmovedDate]
      exact dt.date.day_addMonths months
    have hnear := dt.date.addMonths_neg_near months
    rw [← hdate] at hindex hday hnear
    rw [← hmovedDate] at hday
    obtain ⟨hyear, hmonth⟩ := Date.eq_of_monthIndex hindex
    refine ⟨back, hback, ⟨hyear, hmonth, hday, htime⟩, ⟨fun heq => ?_, fun hkept => ?_⟩, hnear⟩
    · rw [hpinned, ← hday, heq]
    · refine DateTime.ext (Date.eq_of_monthIndex_of_day hindex ?_) htime
      rw [hday, ← hpinned, hkept]

/-- The last of March 2015, in a leap second. -/
def DateTime.lastOfMarch : DateTime :=
  (DateTime.ofFields? 2015 3 31 23 59 59 1500000000).get (by decide)

/-- The last day of February 2015, and the third from last of March. -/
def DateTime.lastOfFebruary : DateTime :=
  (DateTime.ofFields? 2015 2 28 23 59 59 1500000000).get (by decide)

/-- A month before the last of March, and before the 28th of March too, lies the last of
February; the way back leads to the 28th, which is three days early. -/
theorem addMonths_order_and_back_lastOfMarch :
    DateTime.lastOfMarch.addMonths? (-1) = some .lastOfFebruary ∧
      (∃ back, DateTime.lastOfFebruary.addMonths? 1 = some back ∧ back.date.day = 28 ∧
        back ≠ .lastOfMarch ∧ DateTime.lastOfMarch.date ≤ back.date.addDays 3 ∧
        back.date ≤ DateTime.lastOfMarch.date ∧
        ∃ again, back.addMonths? (-1) = some again ∧
          again.date ≤ DateTime.lastOfFebruary.date) := by
  have hmoved : DateTime.lastOfMarch.addMonths? (-1) = some .lastOfFebruary := by decide
  obtain ⟨horder, hback⟩ := addMonths_order_and_back (-1)
  obtain ⟨back, hreturn, ⟨hyear, hmonth, hday, htime⟩, hiff, hle, hnear⟩ := hback _ _ hmoved
  have hpinned : back.date.day = 28 := hday.trans (by decide)
  refine ⟨hmoved, back, hreturn, hpinned, fun heq => ?_, hnear, hle, ?_⟩
  · exact absurd (hiff.mp heq) (by decide)
  · obtain ⟨again, hagain, -⟩ := (addMonths_order_and_back 1).2 _ _ hreturn
    exact ⟨again, hagain, horder _ _ _ _ hle hagain hmoved⟩

end TimePhrase
