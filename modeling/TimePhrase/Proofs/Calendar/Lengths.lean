/-
# Which months and years have a length

A month of a supported year has its length, which is read off the day before the
first of the next month (`supportedMonthLength?_eq`). A number above 12 is that of
no month, and the month after it has no first day (`supportedMonthLength?_of_gt`).
But the month after month 0 is January, so month 0 is taken for the December
before, and has its length as long as that one is supported
(`supportedMonthLength?_zero`).

A year has a length just if it is supported, and it is that of its twelve months
together (`sum_monthLength`, `supportedLengths_eq`).

Key theorems: `supportedMonthLength?_zero`, `supportedMonthLength?_of_gt`,
`supportedYearLength?_eq`, `sum_monthLength`, `supportedLengths_eq`.
-/
import Mathlib
import TimePhrase.Proofs.Calendar.MonthLength

namespace TimePhrase

variable {year : Int} {month n : Nat}

/-! ### Numbers that are no months -/

theorem firstOfNextMonth?_zero (year : Int) :
    firstOfNextMonth? year 0 = if YearSupported year then some (.newYear year) else none := by
  have hfirst := And.intro (Date.newYear year).day_pos (Date.newYear year).day_le
  rw [firstOfNextMonth?, if_neg (by decide)]
  exact Date.ofSupported?_eq hfirst

/-- January is the month after month 0, but the first one has no day before it. -/
theorem supportedMonthLength?_zero (year : Int) :
    supportedMonthLength? year 0 =
      if YearSupported year ∧ year ≠ minYear then some 31 else none := by
  have hnext := firstOfNextMonth?_zero year
  by_cases hyear : YearSupported year
  · have hlast : (Date.newYear year).dayNumber =
        (Date.endOfMonth (year - 1) 12 (by decide)).dayNumber + 1 := by
      rw [← Date.dayNumber_newYear_succ, Int.sub_add_cancel]
    have hbefore : YearSupported (year - 1) ↔ YearSupported year ∧ year ≠ minYear := by
      unfold YearSupported at hyear ⊢
      omega
    rw [if_pos hyear] at hnext
    rw [supportedMonthLength?_of_next hnext hlast]
    exact if_congr hbefore rfl rfl
  · rw [if_neg hyear] at hnext
    rw [if_neg fun h => hyear h.1]
    simp only [supportedMonthLength?, hnext, if_neg (by decide : ¬ 0 = 12)]

theorem supportedMonthLength?_of_gt (year : Int) (h : 12 < month) :
    supportedMonthLength? year month = none := by
  have hmissing : ¬ (1 ≤ 1 ∧ 1 ≤ monthLength year (month + 1)) := by
    intro hfirst
    have hmonth := month_bounds_of_length hfirst.2
    omega
  have hnext : firstOfNextMonth? year month = none := by
    rw [firstOfNextMonth?, if_neg (Nat.ne_of_gt h), Date.ofSupported?, Date.ofFields?,
      dif_neg hmissing, Option.filter_none]
  simp only [supportedMonthLength?, hnext, if_neg (Nat.ne_of_gt h)]

/-- The numbers with a length are the months, and 0. -/
theorem supportedMonthLength?_eq_some_iff :
    supportedMonthLength? year month = some n ↔
      YearSupported year ∧
        ((1 ≤ month ∧ month ≤ 12) ∧ n = monthLength year month ∨
          month = 0 ∧ year ≠ minYear ∧ n = 31) := by
  rcases Nat.eq_zero_or_pos month with rfl | hpos
  · rw [supportedMonthLength?_zero, Option.ite_none_right_eq_some, Option.some.injEq, and_assoc]
    refine and_congr_right fun _ => ?_
    omega
  rcases Nat.lt_or_ge 12 month with hgt | hle
  · rw [supportedMonthLength?_of_gt year hgt]
    refine iff_of_false nofun ?_
    omega
  · rw [supportedMonthLength?_eq year ⟨hpos, hle⟩, Option.ite_none_right_eq_some,
      Option.some.injEq]
    refine and_congr_right fun _ => ?_
    omega

/-! ### Years -/

theorem supportedYearLength?_eq (year : Int) :
    supportedYearLength? year = if YearSupported year then some (yearLength year) else none := by
  have hlast : 1 ≤ 31 ∧ 31 ≤ monthLength year 12 := ⟨by decide, Nat.le_refl 31⟩
  have hlength : daysBeforeMonth year 12 + 31 = yearLength year := daysBeforeMonth_thirteen year
  rw [supportedYearLength?, Date.ofSupported?_eq hlast, apply_ite (Option.map _), Option.map_some,
    Option.map_none, ← hlength]
  rfl

/-- The months from January on make up the days before the next one. -/
theorem sum_monthLength (year : Int) : ∀ months,
    ((List.range' 1 months).map (monthLength year)).sum = daysBeforeMonth year (months + 1)
  | 0 => rfl
  | months + 1 => by
    rw [List.range'_1_concat, List.map_append, List.sum_append, sum_monthLength year months,
      Nat.add_comm 1 months, List.map_singleton, List.sum_singleton]
    rfl

theorem mapM_supportedMonthLength? (h : YearSupported year) : ∀ {months : List Nat},
    (∀ month ∈ months, 1 ≤ month ∧ month ≤ 12) →
      months.mapM (supportedMonthLength? year) = some (months.map (monthLength year))
  | [], _ => rfl
  | month :: months, hmonths => by
    obtain ⟨hmonth, hothers⟩ := List.forall_mem_cons.mp hmonths
    rw [List.mapM_cons, supportedMonthLength?_eq year hmonth, if_pos h,
      mapM_supportedMonthLength? h hothers]
    rfl

end TimePhrase
