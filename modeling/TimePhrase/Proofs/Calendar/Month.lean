/-
# Months on a line

The months are numbered on from year to year (`Date.monthIndex`). The number
tells the year and the month (`Date.eq_of_monthIndex`), adding months adds to
it (`Date.monthIndex_addMonths`), and dates in different months are in the
order of their months (`Date.dayNumber_lt_of_monthIndex_lt`).

A month of a year is also a place of its own (`YearMonth`). These places are in
the order of their years, and within a year of their months, which is that of
their numbers (`YearMonth.le_iff_index`).

Key definitions: `Date.monthIndex`, `Date.lengthOfMonth`, `YearMonth`.
Key theorems: `Date.monthIndex_addMonths`, `Date.eq_of_monthIndex`,
`Date.dayNumber_lt_of_monthIndex_lt`, `YearMonth.le_iff_index`.
-/
import Mathlib.Order.Defs.PartialOrder
import TimePhrase.Calendar.Shift

namespace TimePhrase

namespace Date

/-- The number of the month, twelve for each year. -/
def monthIndex (d : Date) : Int :=
  12 * d.year + d.month

/-- The number of days of the date's month. -/
def lengthOfMonth (d : Date) : Nat :=
  monthLength d.year d.month

theorem monthIndex_addMonths (d : Date) (months : Int) :
    (d.addMonths months).monthIndex = d.monthIndex + months := by
  have hmonth := month_addMonths d months
  have hyear := year_addMonths d months
  unfold monthIndex
  omega

/-- The number of a month tells the year and the month. -/
theorem eq_of_monthIndex {a b : Date} (h : a.monthIndex = b.monthIndex) :
    a.year = b.year ∧ a.month = b.month := by
  have ha := a.month_bounds
  have hb := b.month_bounds
  unfold monthIndex at h
  omega

theorem eq_of_monthIndex_of_day {a b : Date} (h : a.monthIndex = b.monthIndex)
    (hday : a.day = b.day) : a = b := by
  obtain ⟨hyear, hmonth⟩ := eq_of_monthIndex h
  exact Date.ext hyear hmonth hday

theorem addMonths_zero (d : Date) : d.addMonths 0 = d := by
  have hindex : (d.addMonths 0).monthIndex = d.monthIndex := by
    rw [monthIndex_addMonths, Int.add_zero]
  obtain ⟨hyear, hmonth⟩ := eq_of_monthIndex hindex
  refine eq_of_monthIndex_of_day hindex ?_
  rw [day_addMonths, hyear, hmonth, Nat.min_eq_left d.day_le]

/-- A month ends before a later one starts. -/
theorem dayNumber_lt_of_monthIndex_lt {a b : Date} (h : a.monthIndex < b.monthIndex) :
    a.dayNumber < b.dayNumber := by
  have ha := a.month_bounds
  have hb := b.month_bounds
  unfold monthIndex at h
  rcases Int.lt_or_le a.year b.year with hlt | hle
  · have hyears := daysBeforeYear_add_yearLength_le hlt
    have hlast := a.dayOfYear_le
    have hfirst := b.dayOfYear_pos
    unfold dayNumber
    omega
  · have hyear : a.year = b.year := by omega
    have hmonths : daysBeforeMonth b.year (a.month + 1) ≤ daysBeforeMonth b.year b.month :=
      daysBeforeMonth_mono b.year (by omega)
    have hnext : daysBeforeMonth b.year (a.month + 1) =
      daysBeforeMonth b.year a.month + monthLength b.year a.month := rfl
    have hlast := a.day_le
    have hfirst := b.day_pos
    rw [hyear] at hlast
    rw [dayNumber, dayNumber, dayOfYear, dayOfYear, hyear]
    omega

end Date

/-! ### Months of years -/

/-- A month of a year. -/
@[ext]
structure YearMonth where
  year : Int
  month : Nat
  bounds : 1 ≤ month ∧ month ≤ 12

namespace YearMonth

variable {a b : YearMonth}

/-- The year counts first, and then the month. -/
instance : PartialOrder YearMonth where
  le a b := a.year < b.year ∨ a.year = b.year ∧ a.month ≤ b.month
  le_refl a := .inr ⟨rfl, Nat.le_refl _⟩
  le_trans a b c hab hbc := by omega
  le_antisymm a b hab hba := YearMonth.ext (by omega) (by omega)

theorem le_iff : a ≤ b ↔ a.year < b.year ∨ a.year = b.year ∧ a.month ≤ b.month :=
  Iff.rfl

/-- The number of the month, twelve for each year. -/
def index (m : YearMonth) : Int :=
  12 * m.year + m.month

theorem le_iff_index : a ≤ b ↔ a.index ≤ b.index := by
  have ha := a.bounds
  have hb := b.bounds
  rw [le_iff, index, index]
  omega

theorem lt_iff_index : a < b ↔ a.index < b.index := by
  rw [lt_iff_le_not_ge, le_iff_index, le_iff_index]
  omega

end YearMonth

/-- The month that the date lies in. -/
def Date.yearMonth (d : Date) : YearMonth :=
  ⟨d.year, d.month, d.month_bounds⟩

end TimePhrase
