/-
# Dates of the proleptic Gregorian calendar

A date is a year, a month and a day that exist together. There is a year 0,
and no year is too far: which years a program supports is a matter of its
date-times (`TimePhrase.Calendar.DateTime`), so that the calendar itself has
no ends.

The days are numbered from the first of January of year 0, which is day 0.
`Date.ofDayNumber` finds the date of a number; the two are inverse
(`Date.dayNumber_ofDayNumber`, `Date.ofDayNumber_dayNumber`), so moving by
days (`Date.addDays`) is addition of numbers (`Date.dayNumber_addDays`).

Key definitions: `monthLength`, `yearLength`, `Date`, `Date.dayOfYear`,
`Date.dayNumber`, `Date.ofDayNumber`, `Date.addDays`.
-/

namespace TimePhrase

/-! ### Lengths of years and months -/

/-- Every fourth year is a leap year, but of the centuries only every fourth. -/
def isLeapYear (year : Int) : Bool :=
  year % 4 == 0 && (year % 100 != 0 || year % 400 == 0)

/-- The number of days of a year. -/
def yearLength (year : Int) : Nat :=
  if isLeapYear year then 366 else 365

/-- The number of days of a month. A month outside 1 to 12 has none. -/
def monthLength (year : Int) (month : Nat) : Nat :=
  match month with
  | 1 | 3 | 5 | 7 | 8 | 10 | 12 => 31
  | 4 | 6 | 9 | 11 => 30
  | 2 => if isLeapYear year then 29 else 28
  | _ => 0

/-- The days of the year before the first of `month`. -/
def daysBeforeMonth (year : Int) : Nat → Nat
  | 0 => 0
  | month + 1 => daysBeforeMonth year month + monthLength year month

/-- The days from the first of January of year 0 to that of `year`. -/
def daysBeforeYear (year : Int) : Int :=
  365 * year + (year + 3) / 4 - (year + 99) / 100 + (year + 399) / 400

theorem monthLength_le (year : Int) (month : Nat) : monthLength year month ≤ 31 := by
  unfold monthLength
  split <;> first | omega | (split <;> omega)

theorem monthLength_pos {month : Nat} (year : Int) (h1 : 1 ≤ month) (h2 : month ≤ 12) :
    28 ≤ monthLength year month := by
  have : month = 1 ∨ month = 2 ∨ month = 3 ∨ month = 4 ∨ month = 5 ∨ month = 6 ∨ month = 7 ∨
    month = 8 ∨ month = 9 ∨ month = 10 ∨ month = 11 ∨ month = 12 := by omega
  rcases this with h | h | h | h | h | h | h | h | h | h | h | h <;> subst h <;>
    simp only [monthLength] <;> first | omega | (split <;> omega)

/-- Only the months 1 to 12 have days. -/
theorem month_bounds_of_length {year : Int} {month : Nat} (h : 0 < monthLength year month) :
    1 ≤ month ∧ month ≤ 12 := by
  unfold monthLength at h
  split at h <;> omega

/-- The twelve months make up the year. -/
theorem daysBeforeMonth_thirteen (year : Int) : daysBeforeMonth year 13 = yearLength year := by
  simp only [daysBeforeMonth, monthLength, yearLength]
  cases isLeapYear year <;> rfl

/-- A year ends where the next one starts. -/
theorem daysBeforeYear_succ (year : Int) :
    daysBeforeYear (year + 1) = daysBeforeYear year + yearLength year := by
  have h : isLeapYear year = true ↔ year % 4 = 0 ∧ (¬ year % 100 = 0 ∨ year % 400 = 0) := by
    simp [isLeapYear]
  unfold daysBeforeYear yearLength
  split <;> rename_i hl <;> rw [h] at hl <;> omega

/-- An earlier year ends before a later one starts. -/
theorem daysBeforeYear_add_yearLength_le {a b : Int} (h : a < b) :
    daysBeforeYear a + yearLength a ≤ daysBeforeYear b := by
  rw [← daysBeforeYear_succ]
  unfold daysBeforeYear
  omega

/-! ### Dates -/

/-- A day of the calendar. -/
@[ext]
structure Date where
  year : Int
  month : Nat
  day : Nat
  day_pos : 1 ≤ day
  day_le : day ≤ monthLength year month
  deriving DecidableEq

namespace Date

/-- The date with these fields, if there is one. -/
def ofFields? (year : Int) (month day : Nat) : Option Date :=
  if h : 1 ≤ day ∧ day ≤ monthLength year month then some ⟨year, month, day, h.1, h.2⟩ else none

theorem month_bounds (d : Date) : 1 ≤ d.month ∧ d.month ≤ 12 :=
  month_bounds_of_length (Nat.lt_of_lt_of_le d.day_pos d.day_le)

theorem ofFields?_self (d : Date) : ofFields? d.year d.month d.day = some d := by
  simp [ofFields?, d.day_pos, d.day_le]

/-- The first day of the date's month. -/
def firstOfMonth (d : Date) : Date :=
  ⟨d.year, d.month, 1, Nat.le_refl 1, Nat.le_trans d.day_pos d.day_le⟩

/-- The first of January of a year. -/
def newYear (year : Int) : Date :=
  ⟨year, 1, 1, Nat.le_refl 1, by simp [monthLength]⟩

/-- The first of January of the date's year. -/
def firstOfYear (d : Date) : Date :=
  .newYear d.year

/-- The position of the date in its year, from 1. -/
def dayOfYear (d : Date) : Nat :=
  daysBeforeMonth d.year d.month + d.day

/-! ### Days of a year -/

/-- The last of the months 1 to `bound` that starts before day `n` of the
year. -/
def monthOfDay (year : Int) (n : Nat) : Nat → Nat
  | 0 => 0
  | month + 1 => if daysBeforeMonth year (month + 1) < n then month + 1 else monthOfDay year n month

theorem monthOfDay_pos (year : Int) {n : Nat} (hn : 1 ≤ n) :
    ∀ bound, 1 ≤ bound → 1 ≤ monthOfDay year n bound
  | bound + 1, _ => by
    unfold monthOfDay
    split
    · omega
    · rename_i h
      cases bound with
      | zero => simp [daysBeforeMonth, monthLength] at h; omega
      | succ k => exact monthOfDay_pos year hn (k + 1) (by omega)

theorem monthOfDay_le (year : Int) (n : Nat) : ∀ bound, monthOfDay year n bound ≤ bound
  | 0 => Nat.le_refl 0
  | bound + 1 => by
    unfold monthOfDay
    split
    · omega
    · have := monthOfDay_le year n bound
      omega

theorem daysBeforeMonth_monthOfDay_lt (year : Int) {n : Nat} (hn : 1 ≤ n) :
    ∀ bound, daysBeforeMonth year (monthOfDay year n bound) < n
  | 0 => hn
  | bound + 1 => by
    unfold monthOfDay
    split
    · assumption
    · exact daysBeforeMonth_monthOfDay_lt year hn bound

/-- The month after the one found starts on day `n` or later. -/
theorem le_daysBeforeMonth_monthOfDay (year : Int) (n : Nat) :
    ∀ bound, n ≤ daysBeforeMonth year (bound + 1) →
      n ≤ daysBeforeMonth year (monthOfDay year n bound + 1)
  | 0, h => h
  | bound + 1, h => by
    unfold monthOfDay
    split
    · exact h
    · exact le_daysBeforeMonth_monthOfDay year n bound (by omega)

/-- Day `n` of the year, counted from 1. -/
def ofDayOfYear (year : Int) (n : Nat) (h1 : 1 ≤ n) (h2 : n ≤ yearLength year) : Date where
  year := year
  month := monthOfDay year n 12
  day := n - daysBeforeMonth year (monthOfDay year n 12)
  day_pos := by
    have := daysBeforeMonth_monthOfDay_lt year h1 12
    omega
  day_le := by
    have h := le_daysBeforeMonth_monthOfDay year n 12 (by rwa [daysBeforeMonth_thirteen])
    have e : daysBeforeMonth year (monthOfDay year n 12 + 1) =
      daysBeforeMonth year (monthOfDay year n 12) + monthLength year (monthOfDay year n 12) := rfl
    omega

/-- Day `n` of the year, if the year has so many days. -/
def ofDayOfYear? (year : Int) (n : Nat) : Option Date :=
  if h : 1 ≤ n ∧ n ≤ yearLength year then some (ofDayOfYear year n h.1 h.2) else none

theorem year_ofDayOfYear (year : Int) (n : Nat) (h1 : 1 ≤ n) (h2 : n ≤ yearLength year) :
    (ofDayOfYear year n h1 h2).year = year := rfl

theorem dayOfYear_ofDayOfYear (year : Int) (n : Nat) (h1 : 1 ≤ n) (h2 : n ≤ yearLength year) :
    (ofDayOfYear year n h1 h2).dayOfYear = n := by
  have := daysBeforeMonth_monthOfDay_lt year h1 12
  simp only [dayOfYear, ofDayOfYear]
  omega

theorem daysBeforeMonth_mono (year : Int) {a b : Nat} (h : a ≤ b) :
    daysBeforeMonth year a ≤ daysBeforeMonth year b := by
  induction h with
  | refl => exact Nat.le_refl _
  | step _ ih => exact Nat.le_trans ih (Nat.le_add_right _ _)

theorem dayOfYear_pos (d : Date) : 1 ≤ d.dayOfYear := by
  have := d.day_pos
  unfold dayOfYear
  omega

theorem dayOfYear_le (d : Date) : d.dayOfYear ≤ yearLength d.year := by
  have h1 : d.dayOfYear ≤ daysBeforeMonth d.year (d.month + 1) :=
    Nat.add_le_add_left d.day_le _
  have h2 := daysBeforeMonth_mono d.year (Nat.succ_le_succ d.month_bounds.2)
  rw [daysBeforeMonth_thirteen] at h2
  exact Nat.le_trans h1 h2

/-- Two dates of one year with the same position are the same. -/
theorem eq_of_dayOfYear {a b : Date} (hy : a.year = b.year) (hd : a.dayOfYear = b.dayOfYear) :
    a = b := by
  obtain ⟨y, m, d, hp, hl⟩ := a
  obtain ⟨y', m', d', hp', hl'⟩ := b
  simp only at hy
  subst hy
  simp only [dayOfYear] at hd
  have key : ∀ {m m' d d' : Nat}, 1 ≤ d' → d ≤ monthLength y m →
      daysBeforeMonth y m + d = daysBeforeMonth y m' + d' → m' ≤ m := by
    intro m m' d d' hp' hl h
    rcases Nat.lt_or_ge m m' with hlt | hge
    · have h1 := daysBeforeMonth_mono y hlt
      have h2 : daysBeforeMonth y (m + 1) = daysBeforeMonth y m + monthLength y m := rfl
      simp only [Nat.succ_eq_add_one] at h1
      omega
    · exact hge
  have hm : m = m' := Nat.le_antisymm (key hp hl' hd.symm) (key hp' hl hd)
  subst hm
  have : d = d' := by omega
  subst this
  rfl

/-! ### Day numbers -/

/-- The days from the first of January of year 0 to the date. -/
def dayNumber (d : Date) : Int :=
  daysBeforeYear d.year + d.dayOfYear - 1

/-- The year of a day number: the mean length of a year, 146097 days in 400
years, puts it at most one year off. -/
def yearOfDayNumber (n : Int) : Int :=
  let guess := 400 * n / 146097
  if n < daysBeforeYear guess then guess - 1
  else if daysBeforeYear (guess + 1) ≤ n then guess + 1
  else guess

theorem daysBeforeYear_yearOfDayNumber_le (n : Int) :
    daysBeforeYear (yearOfDayNumber n) ≤ n := by
  unfold yearOfDayNumber daysBeforeYear
  simp only
  split
  · omega
  · split <;> omega

theorem lt_daysBeforeYear_yearOfDayNumber (n : Int) :
    n < daysBeforeYear (yearOfDayNumber n) + yearLength (yearOfDayNumber n) := by
  rw [← daysBeforeYear_succ]
  unfold yearOfDayNumber
  simp only
  split
  · rwa [Int.sub_add_cancel]
  · unfold daysBeforeYear
    split <;> omega

/-- The date of a day number. -/
def ofDayNumber (n : Int) : Date :=
  ofDayOfYear (yearOfDayNumber n) (n - daysBeforeYear (yearOfDayNumber n) + 1).toNat
    (by have := daysBeforeYear_yearOfDayNumber_le n; omega)
    (by have := lt_daysBeforeYear_yearOfDayNumber n; omega)

theorem dayNumber_ofDayNumber (n : Int) : (ofDayNumber n).dayNumber = n := by
  have h := daysBeforeYear_yearOfDayNumber_le n
  simp only [dayNumber, ofDayNumber, dayOfYear_ofDayOfYear, year_ofDayOfYear]
  omega

/-- A day number belongs to one date only. -/
theorem eq_of_dayNumber {a b : Date} (h : a.dayNumber = b.dayNumber) : a = b := by
  have ha1 := a.dayOfYear_pos
  have ha2 := a.dayOfYear_le
  have hb1 := b.dayOfYear_pos
  have hb2 := b.dayOfYear_le
  unfold dayNumber at h
  have hy : a.year = b.year := by
    rcases Int.lt_trichotomy a.year b.year with hlt | heq | hgt
    · have := daysBeforeYear_add_yearLength_le hlt
      omega
    · exact heq
    · have := daysBeforeYear_add_yearLength_le hgt
      omega
  refine eq_of_dayOfYear hy ?_
  rw [hy] at h
  omega

theorem eq_iff_dayNumber {a b : Date} : a = b ↔ a.dayNumber = b.dayNumber :=
  ⟨fun h => h ▸ rfl, eq_of_dayNumber⟩

theorem ofDayNumber_dayNumber (d : Date) : ofDayNumber d.dayNumber = d :=
  eq_of_dayNumber (dayNumber_ofDayNumber _)

/-- The date `days` days later, or earlier if `days` is negative. -/
def addDays (d : Date) (days : Int) : Date :=
  ofDayNumber (d.dayNumber + days)

theorem dayNumber_addDays (d : Date) (days : Int) :
    (d.addDays days).dayNumber = d.dayNumber + days :=
  dayNumber_ofDayNumber _

end Date

end TimePhrase
