/-
# Settling a level at an edge

A walk to an edge settles one level after the other (`DateTime.Settled`): it
stays in the container and keeps what is finer than the level, and no
date-time of the container has a number of the level that lies nearer to the
edge.

The months and the days are settled on their own, the month of a year and the
day of a year, of a month or of a week (`DateTime.settled_ofDate`), and may be
settled again (`DateTime.Settled.again`). An hour, a minute, a second or a
millisecond is the next digit after the unit that it is counted in
(`ClockField`): it is settled once that unit is (`DateTime.Settled.clock`). So
each level is settled after the one that encloses it
(`DateTime.Settled.step`).

Key definitions: `Edge.Leads`, `DateTime.Settled`, `ClockField`,
`TimeUnit.Encloses`.
Key theorems: `DateTime.settled_ofDate`, `DateTime.Settled.clock`,
`DateTime.Settled.step`.
-/
import TimePhrase.Proofs.Calendar.Containment
import TimePhrase.Proofs.Calendar.Setting

namespace TimePhrase

variable {edge : Edge} {container outer level : TimeUnit} {field : CalendarField} {base value : Nat}
  {dt next moved : DateTime}

/-- The first number is the second, or nearer to the edge. -/
def Edge.Leads (edge : Edge) (i j : Int) : Prop :=
  match edge with
  | .first => i ≤ j
  | .last => j ≤ i

theorem Edge.leads_refl (edge : Edge) (i : Int) : edge.Leads i i := by
  cases edge <;> exact Int.le_refl i

namespace DateTime

/-- A level is settled at the edge of the container that holds `dt`. -/
structure Settled (edge : Edge) (container level : TimeUnit) (dt next : DateTime) : Prop where
  ordinary : next.time.nano < 1000000000
  within : SameUnit container dt next
  keeps : dt.KeepsBelow level next
  nearest : ∀ other : DateTime, other.time.nano < 1000000000 → SameUnit container dt other →
    edge.Leads (next.unitNumber level) (other.unitNumber level)

/-- The container itself is settled from the start. -/
theorem settled_self (hdt : dt.time.nano < 1000000000) (hc : container ≠ .millisecond) :
    Settled edge container container dt dt where
  ordinary := hdt
  within := .refl container dt
  keeps := .refl hc dt
  nearest _ _ hother := sameUnit_iff.mp hother ▸ edge.leads_refl _

/-- A level may be settled after a coarser one, whatever that has changed. -/
theorem Settled.again (h : Settled edge container outer dt next)
    (h' : Settled edge container level next moved) (hrank : outer.rank ≤ level.rank)
    (hweek : level ≠ .week) (hmilli : level ≠ .millisecond) :
    Settled edge container level dt moved where
  ordinary := h'.ordinary
  within := h.within.trans h'.within
  keeps := (h.keeps.finer hrank hweek hmilli).trans h'.keeps
  nearest other hother hsame := h'.nearest other hother (h.within.symm.trans hsame)

/-! ### Fields of the date -/

/-- The month at an edge of the year has room for every day. -/
theorem settled_month (hdt : dt.time.nano < 1000000000)
    (h : dt.setMonth? (CalendarField.month.atEdge edge dt) = some moved) :
    Settled edge .year .month dt moved := by
  obtain ⟨hyear, hmonth, hday, htime⟩ := setMonth?_eq_some h
  refine ⟨htime ▸ hdt, hyear.symm, ⟨?_, htime⟩, fun other _ hother => ?_⟩
  · have hlength : monthLength dt.date.year (CalendarField.month.atEdge edge dt) = 31 := by
      cases edge <;> rfl
    have hlast := dt.date.day_le
    have hbound := monthLength_le dt.date.year dt.date.month
    omega
  · have hother : dt.date.year = other.date.year := hother
    have hmonths := other.date.month_bounds
    rw [unitNumber, unitNumber, Date.monthIndex, Date.monthIndex, hyear, hmonth, hother]
    cases edge <;> simp only [Edge.Leads, CalendarField.atEdge, CalendarField.minimum,
      CalendarField.maximum] <;> omega

theorem settled_dayOfYear (hdt : dt.time.nano < 1000000000)
    (h : dt.setDayOfYear? (CalendarField.dayOfYear.atEdge edge dt) = some moved) :
    Settled edge .year .day dt moved := by
  obtain ⟨hyear, hday, htime⟩ := setDayOfYear?_eq_some h
  refine ⟨htime ▸ hdt, hyear.symm, htime, fun other _ hother => ?_⟩
  have hother : dt.date.year = other.date.year := hother
  have hfirst := other.date.dayOfYear_pos
  have hlast := other.date.dayOfYear_le
  rw [unitNumber, unitNumber, Date.dayNumber, Date.dayNumber, hyear, hday, hother]
  cases edge <;> simp only [Edge.Leads, CalendarField.atEdge, CalendarField.minimum,
    CalendarField.maximum, hother] <;> omega

theorem settled_dayOfMonth (hdt : dt.time.nano < 1000000000)
    (h : dt.setDay? (CalendarField.dayOfMonth.atEdge edge dt) = some moved) :
    Settled edge .month .day dt moved := by
  obtain ⟨hyear, hmonth, hday, htime⟩ := setDay?_eq_some h
  refine ⟨htime ▸ hdt, ⟨hyear.symm, hmonth.symm⟩, htime, fun other _ hother => ?_⟩
  obtain ⟨hyear', hmonth'⟩ := hother
  have hfirst := other.date.day_pos
  have hlast := other.date.day_le
  rw [unitNumber, unitNumber, Date.dayNumber, Date.dayNumber, Date.dayOfYear, Date.dayOfYear,
    hyear, hmonth, hday, hyear', hmonth']
  cases edge <;> simp only [Edge.Leads, CalendarField.atEdge, CalendarField.minimum,
    CalendarField.maximum, hyear', hmonth'] <;> omega

theorem settled_dayOfWeek (hdt : dt.time.nano < 1000000000)
    (h : dt.setDayOfWeek? (CalendarField.dayOfWeek.atEdge edge dt) = some moved) :
    Settled edge .week .day dt moved := by
  rw [setDayOfWeek?, addNanos?_days hdt, onDate?_eq_some_iff] at h
  obtain ⟨hdate, htime⟩ := h
  have hday : moved.date.dayNumber = dt.date.dayNumber +
      ((CalendarField.dayOfWeek.atEdge edge dt : Int) - dt.date.dayOfWeek) := by
    rw [hdate, Date.dayNumber_addDays]
  have hvalue := atEdge_bounds .dayOfWeek edge dt
  rw [Date.dayOfWeek_eq, Date.daysFromSunday] at hday
  simp only [CalendarField.minimum, CalendarField.maximum] at hvalue
  refine ⟨htime ▸ hdt, sameUnit_iff.mpr ?_, htime, fun other _ hother => ?_⟩
  · rw [unitNumber, unitNumber]
    omega
  · rw [sameUnit_iff, unitNumber, unitNumber] at hother
    rw [unitNumber, unitNumber]
    cases edge <;> simp only [Edge.Leads, CalendarField.atEdge, CalendarField.minimum,
      CalendarField.maximum] at hday ⊢ <;> omega

/-- A month or a day is settled on its own. -/
theorem settled_ofDate (hdt : dt.time.nano < 1000000000) (hlevel : level.isFinerThan .day = false)
    (hc : container.rank < level.rank)
    (hfield : CalendarField.ofUnit? level container = some field)
    (h : dt.setField? field (field.atEdge edge dt) = some moved) :
    Settled edge container level dt moved := by
  cases level with
  | year | week => cases hfield
  | month =>
    obtain rfl : container = .year := TimeUnit.eq_of_rank (Nat.lt_one_iff.mp hc)
    cases hfield
    exact settled_month hdt h
  | day =>
    cases container with
    | year =>
      cases hfield
      exact settled_dayOfYear hdt h
    | month =>
      cases hfield
      exact settled_dayOfMonth hdt h
    | week =>
      cases hfield
      exact settled_dayOfWeek hdt h
    | day | hour | minute | second | millisecond => exact absurd hc (by decide)
  | hour | minute | second | millisecond => cases hlevel

end DateTime

/-! ### Fields of the clock -/

/-- A unit of the clock with the field that counts it within the next coarser
unit, and a number that the count stays below. -/
inductive ClockField : (outer level : TimeUnit) → CalendarField → Nat → Prop
  | hour : ClockField .day .hour .hourOfDay 24
  | minute : ClockField .hour .minute .minute 60
  | second : ClockField .minute .second .second 60
  | millisecond : ClockField .second .millisecond .millisecond 2000

namespace ClockField

theorem ofUnit? (hrank : outer.rank + 1 = level.rank) (hlevel : level.isFinerThan .day = true)
    (hfield : CalendarField.ofUnit? level container = some field) :
    ∃ base, ClockField outer level field base := by
  cases level with
  | year | month | week | day => cases hlevel
  | hour =>
    obtain rfl : outer = .day := TimeUnit.eq_of_rank (Nat.succ.inj hrank)
    cases hfield
    exact ⟨24, .hour⟩
  | minute =>
    obtain rfl : outer = .hour := TimeUnit.eq_of_rank (Nat.succ.inj hrank)
    cases hfield
    exact ⟨60, .minute⟩
  | second =>
    obtain rfl : outer = .minute := TimeUnit.eq_of_rank (Nat.succ.inj hrank)
    cases hfield
    exact ⟨60, .second⟩
  | millisecond =>
    obtain rfl : outer = .second := TimeUnit.eq_of_rank (Nat.succ.inj hrank)
    cases hfield
    exact ⟨2000, .millisecond⟩

variable (hclock : ClockField outer level field base)
include hclock

open DateTime

/-- Setting a field of the clock changes that field alone. -/
theorem setField?_eq_some (h : dt.setField? field value = some moved) :
    moved.date = dt.date ∧
      moved.time.hour = (if level = .hour then value else dt.time.hour) ∧
      moved.time.minute = (if level = .minute then value else dt.time.minute) ∧
      moved.time.second = (if level = .second then value else dt.time.second) ∧
      moved.time.nano = if level = .millisecond then value * 1000000 else dt.time.nano := by
  cases hclock with
  | hour =>
    rw [setField?, setHour?, Option.dite_none_right_eq_some] at h
    obtain ⟨_, h⟩ := h
    cases h
    exact ⟨rfl, rfl, rfl, rfl, rfl⟩
  | minute =>
    rw [setField?, setMinute?, Option.dite_none_right_eq_some] at h
    obtain ⟨_, h⟩ := h
    cases h
    exact ⟨rfl, rfl, rfl, rfl, rfl⟩
  | second =>
    rw [setField?, setSecond?, Option.dite_none_right_eq_some] at h
    obtain ⟨_, h⟩ := h
    cases h
    exact ⟨rfl, rfl, rfl, rfl, rfl⟩
  | millisecond =>
    rw [setField?, setNano?, Option.dite_none_right_eq_some] at h
    obtain ⟨_, h⟩ := h
    cases h
    exact ⟨rfl, rfl, rfl, rfl, rfl⟩

theorem sameUnit (h : dt.setField? field value = some moved) : SameUnit outer dt moved := by
  obtain ⟨hdate, hhour, hminute, hsecond, -⟩ := hclock.setField?_eq_some h
  cases hclock <;> simp_all [SameUnit]

theorem keepsBelow (hkeeps : dt.KeepsBelow outer next)
    (h : next.setField? field value = some moved) : dt.KeepsBelow level moved := by
  obtain ⟨-, -, hminute, hsecond, hnano⟩ := hclock.setField?_eq_some h
  cases hclock <;> simp_all [KeepsBelow]

/-- The value of the field is the last digit of the number. -/
theorem unitNumber_eq (h : dt.setField? field value = some moved) :
    moved.unitNumber level = base * dt.unitNumber outer + value := by
  obtain ⟨hdate, hhour, hminute, hsecond, hnano⟩ := hclock.setField?_eq_some h
  cases hclock <;> simp_all [unitNumber]

theorem exists_digit (hdt : dt.time.nano < 1000000000) (next : DateTime) : ∃ digit : Nat,
    digit ≤ field.maximum next ∧ dt.unitNumber level = base * dt.unitNumber outer + digit := by
  cases hclock with
  | hour => exact ⟨_, Nat.le_of_lt_succ dt.time.hour_lt, rfl⟩
  | minute => exact ⟨_, Nat.le_of_lt_succ dt.time.minute_lt, rfl⟩
  | second => exact ⟨_, Nat.le_of_lt_succ dt.time.second_lt, rfl⟩
  | millisecond =>
    have hmilli : dt.time.nano / 1000000 ≤ 999 := by omega
    exact ⟨dt.time.nano / 1000000, hmilli, rfl⟩

/-- From an ordinary time an edge of the clock is ordinary. -/
theorem nano_lt (hdt : dt.time.nano < 1000000000)
    (h : dt.setField? field (field.atEdge edge dt) = some moved) :
    moved.time.nano < 1000000000 := by
  obtain ⟨-, -, -, -, hnano⟩ := hclock.setField?_eq_some h
  have hvalue := (atEdge_bounds field edge dt).2
  cases hclock with
  | hour | minute | second => exact hnano ▸ hdt
  | millisecond =>
    have hvalue : CalendarField.millisecond.atEdge edge dt ≤ 999 := hvalue
    rw [if_pos rfl] at hnano
    omega

end ClockField

namespace DateTime

/-- A unit of the clock is settled once the unit that it is counted in is. -/
theorem Settled.clock (h : Settled edge container outer dt next)
    (hclock : ClockField outer level field base) (hc : container.rank ≤ outer.rank)
    (hset : next.setField? field (field.atEdge edge next) = some moved) :
    Settled edge container level dt moved := by
  have hday : TimeUnit.day.rank ≤ outer.rank := by cases hclock <;> decide
  have hsame : SameUnit container next moved := (hclock.sameUnit hset).coarser hday hc
  refine ⟨hclock.nano_lt h.ordinary hset, h.within.trans hsame, hclock.keepsBelow h.keeps hset, ?_⟩
  intro other hother hin
  -- no digit is nearer to the edge, and the numbers of the outer units are settled
  obtain ⟨digit, hdigit, hnumber⟩ := hclock.exists_digit hother next
  have houter := h.nearest other hother hin
  rw [hclock.unitNumber_eq hset, hnumber]
  cases edge with
  | first =>
    have hmin : field.minimum = 0 := by cases hclock <;> rfl
    rw [CalendarField.atEdge, hmin]
    exact Int.add_le_add (Int.mul_le_mul_of_nonneg_left houter (Int.natCast_nonneg base))
      (Int.natCast_nonneg digit)
  | last =>
    exact Int.add_le_add (Int.mul_le_mul_of_nonneg_left houter (Int.natCast_nonneg base))
      (Int.ofNat_le.mpr hdigit)

end DateTime

/-! ### Level after level -/

/-- Between the two levels lies at most a week that is passed over. -/
def TimeUnit.Encloses (outer level : TimeUnit) : Prop :=
  outer.rank + 1 = level.rank ∨ outer = .month ∧ level = .day

instance (outer level : TimeUnit) : Decidable (outer.Encloses level) :=
  inferInstanceAs (Decidable (_ ∨ _))

theorem TimeUnit.Encloses.rank_lt (h : outer.Encloses level) : outer.rank < level.rank := by
  rcases h with hrank | ⟨rfl, rfl⟩
  · exact Nat.lt_of_succ_le (Nat.le_of_eq hrank)
  · decide

/-- **A level is settled after the level that encloses it.** -/
theorem DateTime.Settled.step (h : Settled edge container outer dt next)
    (hencloses : outer.Encloses level) (hc : container.rank ≤ outer.rank)
    (hfield : CalendarField.ofUnit? level container = some field)
    (hset : next.setField? field (field.atEdge edge next) = some moved) :
    Settled edge container level dt moved := by
  have hrank := hencloses.rank_lt
  cases hlevel : level.isFinerThan .day with
  | false =>
    have hmoved := settled_ofDate h.ordinary hlevel (Nat.lt_of_le_of_lt hc hrank) hfield hset
    refine h.again hmoved (Nat.le_of_lt hrank) ?_ ?_
    · rintro rfl
      cases hfield
    · rintro rfl
      cases hlevel
  | true =>
    have hstep : outer.rank + 1 = level.rank := by
      refine hencloses.resolve_right ?_
      rintro ⟨-, rfl⟩
      cases hlevel
    obtain ⟨base, hclock⟩ := ClockField.ofUnit? hstep hlevel hfield
    exact h.clock hclock hc hset

end TimePhrase
