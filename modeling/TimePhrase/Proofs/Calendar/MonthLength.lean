/-
# Months counted in words

The day before the first of the next month is the last day of a month
(`Date.dayNumber_startAfter`, `Date.dayNumber_newYear_succ`), and so tells its
length. Only the last December has no supported month after it, and its length
is known anyway. So every month of a supported year has its length, and no
month of another year has one (`supportedMonthLength?_eq`).

Nor does it matter that months and years are counted in words: a count that
does not fit a word leads far out of the supported years. So months are added
as on a calendar without ends, wherever that leads to a supported date
(`DateTime.addMonths?_eq_onDate?`), and a shift by months or years adds so many
months (`DateTime.shift_of_months`).

Key definitions: `Date.endOfMonth`, `Date.startAfter`.
Key theorems: `supportedMonthLength?_eq`, `DateTime.addMonths?_eq_onDate?`,
`DateTime.shift_of_months`.
-/
import Mathlib.Logic.Basic
import TimePhrase.Calendar.Shift

namespace TimePhrase

variable {year n k : Int} {month day : Nat}

/-! ### Words -/

theorem word?_eq_some_iff : word? n = some k ↔ (-2147483648 ≤ n ∧ n ≤ 2147483647) ∧ n = k := by
  rw [word?, Option.ite_none_right_eq_some, Option.some.injEq]

theorem word?_of_bounds (h : -2147483648 ≤ n ∧ n ≤ 2147483647) : word? n = some n :=
  if_pos h

theorem word?_of_yearSupported (h : YearSupported year) : word? year = some year := by
  obtain ⟨hmin, hmax⟩ := h
  unfold minYear at hmin
  unfold maxYear at hmax
  exact word?_of_bounds (by omega)

/-! ### Lengths of months -/

namespace Date

theorem ofSupported?_eq (h : 1 ≤ day ∧ day ≤ monthLength year month) :
    ofSupported? year month day =
      if YearSupported year then some ⟨year, month, day, h.1, h.2⟩ else none := by
  rw [ofSupported?, ofFields?, dif_pos h, Option.filter_some]
  exact if_congr decide_eq_true_iff rfl rfl

/-- The last day of a month. -/
def endOfMonth (year : Int) (month : Nat) (hm : 1 ≤ month ∧ month ≤ 12) : Date where
  year := year
  month := month
  day := monthLength year month
  day_pos := by
    have := monthLength_pos year hm.1 hm.2
    omega
  day_le := Nat.le_refl _

/-- The first day of the month after one of the months before December. -/
def startAfter (year : Int) (month : Nat) (hm : 1 ≤ month ∧ month < 12) : Date :=
  (endOfMonth year (month + 1) ⟨Nat.le_add_left 1 month, hm.2⟩).firstOfMonth

theorem dayNumber_startAfter (hm : 1 ≤ month ∧ month < 12) :
    (startAfter year month hm).dayNumber =
      (endOfMonth year month ⟨hm.1, Nat.le_of_lt hm.2⟩).dayNumber + 1 := by
  simp only [dayNumber, dayOfYear, startAfter, firstOfMonth, endOfMonth, daysBeforeMonth]
  omega

theorem dayNumber_newYear_succ (year : Int) :
    (newYear (year + 1)).dayNumber = (endOfMonth year 12 (by decide)).dayNumber + 1 := by
  have hlength : daysBeforeMonth year 12 + monthLength year 12 = yearLength year :=
    daysBeforeMonth_thirteen year
  have hyear := daysBeforeYear_succ year
  simp only [dayNumber, dayOfYear, newYear, endOfMonth, daysBeforeMonth, monthLength] at hlength ⊢
  omega

end Date

theorem firstOfNextMonth?_of_lt (year : Int) (hm : 1 ≤ month ∧ month < 12) :
    firstOfNextMonth? year month =
      if YearSupported year then some (.startAfter year month hm) else none := by
  have hfirst := And.intro (Date.startAfter year month hm).day_pos
    (Date.startAfter year month hm).day_le
  rw [firstOfNextMonth?, if_neg (Nat.ne_of_lt hm.2)]
  exact Date.ofSupported?_eq hfirst

theorem firstOfNextMonth?_december (year : Int) :
    firstOfNextMonth? year 12 =
      if YearSupported (year + 1) then some (.newYear (year + 1)) else none := by
  have hfirst := And.intro (Date.newYear (year + 1)).day_pos (Date.newYear (year + 1)).day_le
  rw [firstOfNextMonth?, if_pos rfl]
  cases hword : word? (year + 1) with
  | none =>
    have hout : ¬ YearSupported (year + 1) := by
      intro h
      rw [word?_of_yearSupported h] at hword
      cases hword
    rw [if_neg hout]
    rfl
  | some next =>
    obtain ⟨-, rfl⟩ := word?_eq_some_iff.mp hword
    exact Date.ofSupported?_eq hfirst

/-- The length is read off the last day. -/
theorem supportedMonthLength?_of_next {first last : Date}
    (hfirst : firstOfNextMonth? year month = some first)
    (hlast : first.dayNumber = last.dayNumber + 1) :
    supportedMonthLength? year month =
      if YearSupported last.year then some last.day else none := by
  have hbefore : first.addDays (-1) = last := by
    rw [Date.eq_iff_dayNumber, Date.dayNumber_addDays]
    omega
  simp only [supportedMonthLength?, hfirst, Date.dayBefore?, hbefore, Option.filter_some,
    decide_eq_true_iff, apply_ite (Option.map Date.day)]
  rfl

/-- **A month has its length just if its year is supported**, the last December
too. -/
theorem supportedMonthLength?_eq (year : Int) (hm : 1 ≤ month ∧ month ≤ 12) :
    supportedMonthLength? year month =
      if YearSupported year then some (monthLength year month) else none := by
  rcases Nat.lt_or_eq_of_le hm.2 with hlt | rfl
  · have hnext := firstOfNextMonth?_of_lt year ⟨hm.1, hlt⟩
    by_cases hyear : YearSupported year
    · rw [if_pos hyear] at hnext
      exact supportedMonthLength?_of_next hnext (Date.dayNumber_startAfter ⟨hm.1, hlt⟩)
    · rw [if_neg hyear] at hnext ⊢
      simp only [supportedMonthLength?, hnext, if_neg (Nat.ne_of_lt hlt)]
  · have hnext := firstOfNextMonth?_december year
    by_cases hafter : YearSupported (year + 1)
    · rw [if_pos hafter] at hnext
      exact supportedMonthLength?_of_next hnext (Date.dayNumber_newYear_succ year)
    · rw [if_neg hafter] at hnext
      have hlast : 1 ≤ 31 ∧ 31 ≤ monthLength year 12 := ⟨by decide, Nat.le_refl 31⟩
      simp only [supportedMonthLength?, hnext, if_true]
      rw [Date.ofSupported?_eq hlast, apply_ite (Option.map _)]
      rfl

/-! ### Adding months -/

namespace DateTime

/-- Months are added as on a calendar without ends: no count fails that does
not lead out of the supported years. -/
theorem addMonths?_eq_onDate? (dt : DateTime) (months : Int) :
    dt.addMonths? months = dt.onDate? (dt.date.addMonths months) := by
  have hbounds := dt.date.month_bounds
  have hyear : (dt.date.addMonths months).year =
      dt.date.year + (dt.date.month - 1 + months) / 12 := by
    rw [Date.year_addMonths]
    omega
  have hmonth : (dt.date.addMonths months).month =
      ((dt.date.month - 1 + months) % 12).toNat + 1 := by
    have := Date.month_addMonths dt.date months
    omega
  have hlength := supportedMonthLength?_eq (dt.date.addMonths months).year
    (dt.date.addMonths months).month_bounds
  simp only [addMonths?, Option.bind_eq_bind]
  by_cases htarget : YearSupported (dt.date.addMonths months).year
  · have hindex : word? (dt.date.month - 1 + months) = some (dt.date.month - 1 + months) := by
      obtain ⟨hmin, hmax⟩ := htarget
      obtain ⟨hmin', hmax'⟩ := dt.supported
      simp only [minYear, maxYear] at hmin hmax hmin' hmax'
      exact word?_of_bounds (by omega)
    rw [if_pos htarget] at hlength
    rw [hindex, Option.bind_some, ← hyear, word?_of_yearSupported htarget, Option.bind_some,
      ← hmonth, hlength, Option.bind_some, ← Date.day_addMonths, Date.ofFields?_self,
      Option.bind_some]
  · have hnone : dt.onDate? (dt.date.addMonths months) = none := Date.at?_eq_none_iff.mpr htarget
    rw [if_neg htarget] at hlength
    rw [hnone]
    cases hindex : word? (dt.date.month - 1 + months) with
    | none => rfl
    | some index =>
      obtain ⟨-, rfl⟩ := word?_eq_some_iff.mp hindex
      rw [Option.bind_some, ← hyear]
      cases hword : word? (dt.date.addMonths months).year with
      | none => rfl
      | some year =>
        obtain ⟨-, rfl⟩ := word?_eq_some_iff.mp hword
        rw [Option.bind_some, ← hmonth, hlength]
        rfl

/-- A shift by months or years adds so many months. -/
theorem shift_of_months (dt : DateTime) {unit : TimeUnit} {length : Nat}
    (hu : unit.span = .months length) (amount : Int) :
    dt.shift amount unit =
      (dt.onDate? (dt.date.addMonths (amount * length))).elim (.error .outOfRange) .ok := by
  have hshift : dt.shift amount unit =
      ((word? (amount * length)).bind dt.addMonths?).elim (.error .outOfRange) .ok := by
    rw [shift, hu]
  rw [hshift]
  cases hword : word? (amount * length) with
  | some months =>
    obtain ⟨-, rfl⟩ := word?_eq_some_iff.mp hword
    rw [Option.bind_some, addMonths?_eq_onDate?]
  | none =>
    -- so many months lead out of the supported years from any date
    have hout : ¬ (dt.date.addMonths (amount * length)).Supported := by
      intro htarget
      have hbounds := dt.date.month_bounds
      obtain ⟨hmin, hmax⟩ := htarget
      obtain ⟨hmin', hmax'⟩ := dt.supported
      rw [Date.year_addMonths] at hmin hmax
      simp only [minYear, maxYear] at hmin hmax hmin' hmax'
      rw [word?_of_bounds (by omega)] at hword
      cases hword
    have hnone : dt.onDate? (dt.date.addMonths (amount * length)) = none :=
      Date.at?_eq_none_iff.mpr hout
    rw [hnone]
    rfl

end DateTime

end TimePhrase
