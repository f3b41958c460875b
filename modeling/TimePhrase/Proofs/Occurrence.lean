/-
# The occurrence that a qualifier picks

Weekdays and months come again and again on a line that goes on without end.
Seen from a start, a qualifier picks one of the occurrences
(`IsOccurrence`): the first one that is not before the start with no qualifier
or with `THIS`, the first one after it with `NEXT`, and the last one before it
with `LAST` and `PREVIOUS`.

The way that `occurrenceOffset` tells leads to an occurrence
(`dvd_occurrenceOffset`), and does not lead past another one, since it is at
most a period long (`occurrenceOffset_mem_window`). So it leads to the one that
is picked (`isOccurrence_of_offset`). A phrase with a weekday reaches it
wherever it is supported (`apply_dayOfWeek`), and so does a phrase with a month,
which keeps the day as far as the month is long (`apply_month`).

Key definitions: `IsOccurrence`, `occurrenceWindow`.
Key theorems: `IsOccurrence.unique`, `dvd_occurrenceOffset`,
`occurrenceOffset_mem_window`, `isOccurrence_of_offset`, `apply_dayOfWeek`,
`apply_month`.
-/
import Mathlib.Order.Bounds.Basic
import Mathlib.Order.Interval.Set.Defs
import TimePhrase.Proofs.Calendar.Month
import TimePhrase.Proofs.DayLevel

namespace TimePhrase

/-! ### Occurrences -/

section

variable {α : Type} [PartialOrder α] {P : α → Prop} {qualifier : Option Qualifier}
  {start target other : α}

/-- The target is the occurrence of `P` that the qualifier picks, seen from the
start. -/
def IsOccurrence (qualifier : Option Qualifier) (P : α → Prop) (start target : α) : Prop :=
  match qualifier with
  | none | some .this => IsLeast {place | P place ∧ start ≤ place} target
  | some .next => IsLeast {place | P place ∧ start < place} target
  | some .last | some .previous => IsGreatest {place | P place ∧ place < start} target

theorem IsOccurrence.holds (h : IsOccurrence qualifier P start target) : P target :=
  match qualifier, h with
  | none, h | some .this, h => h.1.1
  | some .next, h => h.1.1
  | some .last, h | some .previous, h => h.1.1

/-- At most one occurrence is picked. -/
theorem IsOccurrence.unique (h : IsOccurrence qualifier P start target)
    (h' : IsOccurrence qualifier P start other) : other = target := by
  cases qualifier with
  | none => exact h'.unique h
  | some word => cases word <;> exact h'.unique h

end

/-! ### The way there -/

variable {target current period : Int} {qualifier : Option Qualifier}

/-- The ways that a qualifier allows, over at most one period. -/
def occurrenceWindow (qualifier : Option Qualifier) (period : Int) : Set Int :=
  match qualifier with
  | none | some .this => .Ico 0 period
  | some .next => .Ioc 0 period
  | some .last | some .previous => .Ico (-period) 0

theorem occurrenceOffset_back (h : qualifier.any Qualifier.pointsBack = true) :
    occurrenceOffset target current period qualifier =
      if 0 ≤ target - current then target - current - period else target - current :=
  if_pos h

theorem occurrenceOffset_ahead (h : qualifier.any Qualifier.pointsBack = false) :
    occurrenceOffset target current period qualifier =
      if target - current < 0 ∨ (target - current = 0 ∧ qualifier = some .next) then
        target - current + period
      else target - current :=
  if_neg (ne_true_of_eq_false h)

/-- The way leads from the one position on the cycle to the other. -/
theorem dvd_occurrenceOffset :
    period ∣ occurrenceOffset target current period qualifier - (target - current) := by
  cases h : qualifier.any Qualifier.pointsBack with
  | true =>
    rw [occurrenceOffset_back h]
    split <;> simp
  | false =>
    rw [occurrenceOffset_ahead h]
    split <;> simp

theorem occurrenceOffset_mem_window (qualifier : Option Qualifier)
    (ht : 1 ≤ target ∧ target ≤ period) (hc : 1 ≤ current ∧ current ≤ period) :
    occurrenceOffset target current period qualifier ∈ occurrenceWindow qualifier period := by
  match qualifier with
  | none | some .this =>
    rw [occurrenceOffset_ahead rfl]
    simp only [reduceCtorEq, Option.some.injEq, and_false, or_false]
    constructor <;> split <;> omega
  | some .next =>
    rw [occurrenceOffset_ahead rfl]
    simp only [and_true]
    constructor <;> split <;> omega
  | some .last | some .previous =>
    rw [occurrenceOffset_back rfl]
    constructor <;> split <;> omega

/-- Places that lie less than a period apart do not lie on one position. -/
theorem le_of_dvd_of_lt_add {a b : Int} (hdvd : period ∣ b - a) (h : a < b + period) : a ≤ b := by
  by_contra hlt
  have hle := Int.le_of_dvd (by omega) ((dvd_sub_comm).mp hdvd)
  omega

/-- **The way leads to the occurrence that is picked.** The places of a line are
numbered in their order, and `P` holds for those that have one position on the
cycle. -/
theorem isOccurrence_of_offset {α : Type} [PartialOrder α] {P : α → Prop} {start place : α}
    (number : α → Int) (hnumber : ∀ a b, a ≤ b ↔ number a ≤ number b)
    (ht : 1 ≤ target ∧ target ≤ period) (hc : 1 ≤ current ∧ current ≤ period)
    (hP : ∀ a, P a ↔ period ∣ number a - number start - (target - current))
    (hplace : number place = number start + occurrenceOffset target current period qualifier) :
    IsOccurrence qualifier P start place := by
  have hlt : ∀ a b, a < b ↔ number a < number b := by
    intro a b
    rw [lt_iff_le_not_ge, hnumber, hnumber]
    omega
  have hplaceP : P place := by
    rw [hP, hplace, add_sub_cancel_left]
    exact dvd_occurrenceOffset
  have happart : ∀ other, P other → period ∣ number other - number place := by
    intro other hother
    have hsub := dvd_sub ((hP other).mp hother) ((hP place).mp hplaceP)
    have heq : number other - number start - (target - current) -
        (number place - number start - (target - current)) = number other - number place := by ring
    rwa [heq] at hsub
  have hafter : ∀ other, P other → number place < number other + period → place ≤ other :=
    fun other hother hlt => (hnumber _ _).mpr (le_of_dvd_of_lt_add (happart other hother) hlt)
  have hbefore : ∀ other, P other → number other < number place + period → other ≤ place :=
    fun other hother hlt =>
      (hnumber _ _).mpr (le_of_dvd_of_lt_add (dvd_sub_comm.mp (happart other hother)) hlt)
  have hwindow := occurrenceOffset_mem_window qualifier ht hc
  rw [← sub_eq_iff_eq_add'.mpr hplace] at hwindow
  match qualifier, hwindow with
  | none, ⟨hlow, hhigh⟩ | some .this, ⟨hlow, hhigh⟩ =>
    refine ⟨⟨hplaceP, (hnumber _ _).mpr (by omega)⟩, fun other ⟨hother, hstart⟩ => ?_⟩
    rw [hnumber] at hstart
    exact hafter other hother (by omega)
  | some .next, ⟨hlow, hhigh⟩ =>
    refine ⟨⟨hplaceP, (hlt _ _).mpr (by omega)⟩, fun other ⟨hother, hstart⟩ => ?_⟩
    rw [hlt] at hstart
    exact hafter other hother (by omega)
  | some .last, ⟨hlow, hhigh⟩ | some .previous, ⟨hlow, hhigh⟩ =>
    refine ⟨⟨hplaceP, (hlt _ _).mpr (by omega)⟩, fun other ⟨hother, hstart⟩ => ?_⟩
    rw [hlt] at hstart
    exact hbefore other hother (by omega)

/-- The way is at most one round of the cycle. -/
theorem occurrenceOffset_bounds (qualifier : Option Qualifier)
    (ht : 1 ≤ target ∧ target ≤ period) (hc : 1 ≤ current ∧ current ≤ period) :
    -period ≤ occurrenceOffset target current period qualifier ∧
      occurrenceOffset target current period qualifier ≤ period := by
  have hwindow := occurrenceOffset_mem_window qualifier ht hc
  match qualifier, hwindow with
  | none, ⟨hlow, hhigh⟩ | some .this, ⟨hlow, hhigh⟩ => omega
  | some .next, ⟨hlow, hhigh⟩ => omega
  | some .last, ⟨hlow, hhigh⟩ | some .previous, ⟨hlow, hhigh⟩ => omega

/-- Only a qualifier that points back leads back. -/
theorem occurrenceOffset_neg_iff (qualifier : Option Qualifier)
    (ht : 1 ≤ target ∧ target ≤ period) (hc : 1 ≤ current ∧ current ≤ period) :
    occurrenceOffset target current period qualifier < 0 ↔
      qualifier.any Qualifier.pointsBack = true := by
  have hwindow := occurrenceOffset_mem_window qualifier ht hc
  match qualifier, hwindow with
  | none, ⟨hlow, _⟩ | some .this, ⟨hlow, _⟩ =>
    exact iff_of_false (Int.not_lt.mpr hlow) Bool.false_ne_true
  | some .next, ⟨hlow, _⟩ => exact iff_of_false (Int.lt_asymm hlow) Bool.false_ne_true
  | some .last, ⟨_, hhigh⟩ | some .previous, ⟨_, hhigh⟩ => exact iff_of_true hhigh rfl

/-! ### Weekdays -/

/-- Dates are in the order of their day numbers. -/
instance : PartialOrder Date where
  le a b := a.dayNumber ≤ b.dayNumber
  le_refl _ := Int.le_refl _
  le_trans _ _ _ := Int.le_trans
  le_antisymm _ _ h h' := Date.eq_of_dayNumber (Int.le_antisymm h h')

theorem Date.isOccurrence_weekday (qualifier : Option Qualifier) (weekday : Weekday)
    (start : Date) :
    IsOccurrence qualifier (fun d : Date => d.weekday = weekday) start
      (start.addDays (occurrenceOffset weekday.number start.dayOfWeek 7 qualifier)) := by
  refine isOccurrence_of_offset dayNumber (fun _ _ => Iff.rfl) weekday.number_bounds
    start.dayOfWeek_bounds (fun d => ?_) (dayNumber_addDays _ _)
  have hweekday := weekday.fromSunday_lt
  rw [weekday_eq_iff_fromSunday, dayOfWeek_eq, Weekday.number, daysFromSunday, daysFromSunday]
  omega

/-- **A phrase with a weekday picks the nearest date that its qualifier
allows**, among all dates, and fails just if this date is not supported. The
time of day is that of the reference. -/
theorem apply_dayOfWeek {reference : DateTime} (hnano : reference.time.nano < 1000000000)
    (qualifier : Option Qualifier) (weekday : Weekday) :
    ∃ target : Date,
      (∀ d, IsOccurrence qualifier (fun d : Date => d.weekday = weekday) reference.date d ↔
        d = target) ∧
      (Capture.dayOfWeek qualifier weekday).apply reference =
        if h : target.Supported then .ok ⟨target, reference.time, h⟩ else .error .outOfRange := by
  have htarget := Date.isOccurrence_weekday qualifier weekday reference.date
  have hday : TimeUnit.day.span = .nanos (1 * 86400000000000) := rfl
  refine ⟨_, fun d => ⟨fun h => htarget.unique h, fun h => h ▸ htarget⟩, ?_⟩
  rw [Capture.apply, DateTime.shift_of_days hnano hday, Nat.cast_one, Int.mul_one,
    DateTime.onDate?, Date.at?]
  split <;> rfl

/-- At the end of the calendar, on a Monday, the last Monday is a week away and
the next Tuesday is a date without date-times. -/
theorem apply_dayOfWeek_latest :
    DateTime.latest.time.nano < 1000000000 ∧
      (∃ target, IsOccurrence (some .last) (fun d : Date => d.weekday = .mon)
          DateTime.latest.date target ∧
        ∃ h, (Capture.dayOfWeek (some .last) .mon).apply .latest =
          .ok ⟨target, DateTime.latest.time, h⟩) ∧
      IsOccurrence (some .next) (fun d : Date => d.weekday = .tue) DateTime.latest.date
          (.newYear 262143) ∧
        (Capture.dayOfWeek (some .next) .tue).apply .latest = .error .outOfRange := by
  have hnano : DateTime.latest.time.nano < 1000000000 := by decide
  obtain ⟨monday, hmonday, hlast⟩ := apply_dayOfWeek hnano (some .last) .mon
  obtain ⟨tuesday, htuesday, hnext⟩ := apply_dayOfWeek hnano (some .next) .tue
  have hdecember := Date.isOccurrence_weekday (some .last) .mon DateTime.latest.date
  have hjanuary := Date.isOccurrence_weekday (some .next) .tue DateTime.latest.date
  have hsupported : monday.Supported := (hmonday _).mp hdecember ▸ (by decide)
  have hnew : tuesday = .newYear 262143 :=
    (hjanuary.unique ((htuesday _).mpr rfl)).trans (by decide)
  rw [dif_pos hsupported] at hlast
  rw [dif_neg (hnew ▸ by decide)] at hnext
  exact ⟨hnano, ⟨monday, (hmonday _).mpr rfl, hsupported, hlast⟩,
    hnew ▸ (htuesday _).mpr rfl, hnext⟩

/-! ### Months -/

theorem Date.isOccurrence_month (qualifier : Option Qualifier) {number : Nat}
    (hnumber : 1 ≤ number ∧ number ≤ 12) (start : Date) :
    IsOccurrence qualifier (fun m : YearMonth => m.month = number) start.yearMonth
      (start.addMonths (occurrenceOffset number start.month 12 qualifier)).yearMonth := by
  have hstart := start.month_bounds
  refine isOccurrence_of_offset YearMonth.index (fun _ _ => YearMonth.le_iff_index) (by omega)
    (by omega) (fun m => ?_) (start.monthIndex_addMonths _)
  have hmonth := m.bounds
  have hindex : start.yearMonth.index = 12 * start.year + start.month := rfl
  rw [hindex, YearMonth.index]
  omega

theorem Date.lt_of_yearMonth_lt {a b : Date} (h : a.yearMonth < b.yearMonth) : a < b := by
  have hlt := dayNumber_lt_of_monthIndex_lt (YearMonth.lt_iff_index.mp h)
  exact lt_of_le_not_ge (Int.le_of_lt hlt) (Int.not_le.mpr hlt)

theorem DateTime.elim_onDate? (dt : DateTime) (d : Date) :
    (dt.onDate? d).elim (.error .outOfRange) .ok =
      if h : d.Supported then (.ok ⟨d, dt.time, h⟩ : Except ResolveError DateTime)
      else .error .outOfRange := by
  rw [onDate?, Date.at?]
  split <;> rfl

/-- The number of a month is not changed by a sign. -/
theorem toInt_toInt32_of_le {number : UInt32} (h : number.toNat ≤ 12) :
    number.toInt32.toInt = number.toNat := by
  have hsmall : 2 * number.toBitVec.toNat < 2 ^ 32 := by
    rw [UInt32.toNat_toBitVec]
    omega
  exact BitVec.toInt_eq_toNat_of_lt hsmall

/-- **A phrase with a month picks the nearest month that its qualifier allows**,
among the months of all years, and fails just if its year is not supported. The
day is pinned to the length of the month, and the time of day is that of the
reference, in a leap second too. So `NEXT` leads to a later date, and `LAST` and
`PREVIOUS` to an earlier one. -/
theorem apply_month {number : UInt32} (hnumber : 1 ≤ number.toNat ∧ number.toNat ≤ 12)
    (qualifier : Option Qualifier) (reference : DateTime) :
    ∃ target : YearMonth,
      (∀ m, IsOccurrence qualifier (fun m : YearMonth => m.month = number.toNat)
        reference.date.yearMonth m ↔ m = target) ∧
      (Capture.month qualifier number).apply reference =
        (if h : YearSupported target.year then
          .ok ⟨.pinned target.year target.month reference.date.day target.bounds
            reference.date.day_pos, reference.time, h⟩
        else .error .outOfRange) ∧
      ∀ moved, (Capture.month qualifier number).apply reference = .ok moved →
        (qualifier = some .next → reference.date < moved.date) ∧
        (qualifier = some .last ∨ qualifier = some .previous → moved.date < reference.date) := by
  have htarget := Date.isOccurrence_month qualifier hnumber reference.date
  have hmonth : TimeUnit.month.span = .months 1 := rfl
  have happly : (Capture.month qualifier number).apply reference =
      (reference.onDate? (reference.date.addMonths
        (occurrenceOffset number.toNat reference.date.month 12 qualifier))).elim
          (.error .outOfRange) .ok := by
    rw [Capture.apply, toInt_toInt32_of_le hnumber.2, reference.shift_of_months hmonth,
      Nat.cast_one, Int.mul_one]
  refine ⟨_, fun m => ⟨fun h => htarget.unique h, fun h => h ▸ htarget⟩, ?_, ?_⟩
  · exact happly.trans (reference.elim_onDate? _)
  · intro moved hmoved
    rw [happly, elim_eq_ok_iff, DateTime.onDate?_eq_some_iff] at hmoved
    rw [← hmoved.1] at htarget
    refine ⟨?_, ?_⟩
    · rintro rfl
      exact Date.lt_of_yearMonth_lt htarget.1.2
    · rintro (rfl | rfl) <;> exact Date.lt_of_yearMonth_lt htarget.1.2

/-- At the end of the calendar, on the last of December, this December is that
day itself, the last February has no such day, and the next January has no
date-times. -/
theorem apply_month_latest :
    (1 ≤ (2 : UInt32).toNat ∧ (2 : UInt32).toNat ≤ 12) ∧
      (∃ moved, (Capture.month (some .last) 2).apply .latest = .ok moved ∧
        moved.date.day = 28 ∧ moved.date < DateTime.latest.date) ∧
      (Capture.month (some .this) 12).apply .latest = .ok .latest ∧
      (Capture.month (some .next) 1).apply .latest = .error .outOfRange := by
  have hfebruary : 1 ≤ (2 : UInt32).toNat ∧ (2 : UInt32).toNat ≤ 12 := by decide
  have hdecember : 1 ≤ (12 : UInt32).toNat ∧ (12 : UInt32).toNat ≤ 12 := by decide
  have hjanuary : 1 ≤ (1 : UInt32).toNat ∧ (1 : UInt32).toNat ≤ 12 := by decide
  obtain ⟨february, hlast, happlyLast, hearlier⟩ := apply_month hfebruary (some .last) .latest
  obtain ⟨december, hthis, happlyThis, -⟩ := apply_month hdecember (some .this) .latest
  obtain ⟨january, hnext, happlyNext, -⟩ := apply_month hjanuary (some .next) .latest
  have hoccurs := fun qualifier {number : Nat} (h : 1 ≤ number ∧ number ≤ 12) =>
    Date.isOccurrence_month qualifier h DateTime.latest.date
  obtain rfl := (hlast _).mp (hoccurs (some .last) hfebruary)
  obtain rfl := (hthis _).mp (hoccurs (some .this) hdecember)
  obtain rfl := (hnext _).mp (hoccurs (some .next) hjanuary)
  rw [dif_pos (by decide)] at happlyLast happlyThis
  rw [dif_neg (by decide)] at happlyNext
  refine ⟨hfebruary, ⟨_, happlyLast, by decide, ?_⟩, ?_, happlyNext⟩
  · exact (hearlier _ happlyLast).2 (.inl rfl)
  · rw [happlyThis]
    decide

end TimePhrase
