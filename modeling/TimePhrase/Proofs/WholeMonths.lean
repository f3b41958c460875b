/-
# Whole months and the pinned day

Months and years are counted on the calendar, and the time of day is kept. On a
calendar without ends the months are numbered from January of year 0, so a
division by twelve tells the year and the month that are reached
(`Date.monthsAfter`), and the day is pinned to the length of that month
(`MonthsOn`). There is such a date-time just if its year is supported: neither
the words that the months are counted in nor the last December of all, whose
length cannot be read off a month after it, make the count fail earlier
(`addMonths_exact`).

Key definitions: `Date.monthsAfter`, `MonthsOn`.
Key theorems: `monthsOn_iff`, `exists_onDate?_monthsOn`, `addMonths_exact`.
-/
import TimePhrase.Proofs.Calendar.Instant
import TimePhrase.Proofs.Calendar.MonthLength
import TimePhrase.Proofs.Errors

namespace TimePhrase

variable {months : Int} {dt moved : DateTime}

/-- The number of the month that lies `months` months after the date's, counted
from January of year 0. -/
def Date.monthsAfter (d : Date) (months : Int) : Int :=
  12 * d.year + (d.month - 1) + months

/-- What so many calendar months make of a date-time. -/
structure MonthsOn (months : Int) (dt moved : DateTime) : Prop where
  year : moved.date.year = dt.date.monthsAfter months / 12
  month : (moved.date.month : Int) = dt.date.monthsAfter months % 12 + 1
  day : moved.date.day = min dt.date.day (monthLength moved.date.year moved.date.month)
  time : moved.time = dt.time

/-- One date-time alone lies so many months on. -/
theorem monthsOn_iff :
    MonthsOn months dt moved ↔ moved.date = dt.date.addMonths months ∧ moved.time = dt.time := by
  have hyear : (dt.date.addMonths months).year = dt.date.monthsAfter months / 12 := rfl
  have hmonth : ((dt.date.addMonths months).month : Int) = dt.date.monthsAfter months % 12 + 1 :=
    dt.date.month_addMonths months
  constructor
  · intro h
    have hyears : moved.date.year = (dt.date.addMonths months).year := h.year.trans hyear.symm
    have hmonths : moved.date.month = (dt.date.addMonths months).month :=
      Int.ofNat_inj.mp (h.month.trans hmonth.symm)
    refine ⟨Date.ext hyears hmonths ?_, h.time⟩
    rw [h.day, hyears, hmonths]
    rfl
  · rintro ⟨hdate, htime⟩
    refine ⟨?_, ?_, ?_, htime⟩ <;> rw [hdate]
    · exact hyear
    · exact hmonth
    · exact dt.date.day_addMonths months

/-- It is there just if the year is supported. -/
theorem exists_onDate?_monthsOn (dt : DateTime) (months : Int) :
    if YearSupported (dt.date.monthsAfter months / 12) then
      ∃ moved, dt.onDate? (dt.date.addMonths months) = some moved ∧ MonthsOn months dt moved
    else dt.onDate? (dt.date.addMonths months) = none := by
  by_cases hyear : YearSupported (dt.date.monthsAfter months / 12)
  · have hdate : (dt.date.addMonths months).Supported := hyear
    rw [if_pos hyear]
    exact ⟨⟨_, dt.time, hdate⟩, dif_pos hdate, monthsOn_iff.mpr ⟨rfl, rfl⟩⟩
  · rw [if_neg hyear]
    exact dif_neg hyear

/-- **Months are counted exactly, and fail just out of the calendar.** From any
date-time, in a leap second or not, so many months on lies the month that is
told by a division by twelve, at the same time of day, with the day pinned to
the length of that month; there is a result just if its year is supported. So
many years on are twelve times as many months on. -/
theorem addMonths_exact (dt : DateTime) (amount : Int) :
    (if YearSupported (dt.date.monthsAfter amount / 12) then
      ∃ moved, dt.addMonths? amount = some moved ∧ MonthsOn amount dt moved
    else dt.addMonths? amount = none) ∧
    if YearSupported (dt.date.monthsAfter (12 * amount) / 12) then
      ∃ moved, dt.shift amount .year = .ok moved ∧ MonthsOn (12 * amount) dt moved
    else dt.shift amount .year = .error .outOfRange := by
  have hmonths := exists_onDate?_monthsOn dt amount
  have hyears := exists_onDate?_monthsOn dt (12 * amount)
  have hshift : dt.shift amount .year =
      (dt.onDate? (dt.date.addMonths (12 * amount))).elim (.error .outOfRange) .ok := by
    have hspan : TimeUnit.year.span = .months 12 := rfl
    rw [dt.shift_of_months hspan, Int.mul_comm amount]
    rfl
  rw [dt.addMonths?_eq_onDate?]
  refine ⟨hmonths, ?_⟩
  by_cases hyear : YearSupported (dt.date.monthsAfter (12 * amount) / 12)
  · rw [if_pos hyear] at hyears ⊢
    obtain ⟨moved, hmoved, hon⟩ := hyears
    exact ⟨moved, hshift.trans (elim_eq_ok_iff.mpr hmoved), hon⟩
  · rw [if_neg hyear] at hyears ⊢
    exact hshift.trans (elim_eq_outOfRange_iff.mpr hyears)

/-- The last December is there, a month or a word of months later nothing is. -/
example : DateTime.latest.addMonths? 0 = some .latest ∧ DateTime.latest.addMonths? 1 = none ∧
    DateTime.latest.addMonths? 2147483647 = none := by
  decide

end TimePhrase
