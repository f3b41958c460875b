/-
# The date a phrase picks

Phrases about days and coarser units reach their date in different ways: by
an exact duration, by months on the calendar, by a week of the month or the
year, or by a walk to an edge. In all of them the date is found from the date
of the reference alone, and the time of day is that of the reference. So two
references on one day are moved to one day (`PicksDate`), or both out of the
supported years, outside of leap seconds.

A move that finds a date from the date has this property (`picksDate_of_date`),
and moves that have it may follow one another (`PicksDate.bind`). The first
covers shifts (`picksDate_shift`), weeks (`picksDate_moveToEdgeWeek`) and single
fields (`picksDate_setField?`), and with the second a walk over coarse fields
has the property (`picksDate_walkToEdge`), and so has all that is captured of
a phrase (`apply_picksDate`).

Key definitions: `PicksDate`, `CalendarField.IsOfDate`, `Capture.IsDayLevel`.
Key theorems: `picksDate_of_date`, `PicksDate.bind`, `picksDate_shift`,
`picksDate_moveToEdgeWeek`, `picksDate_setField?`, `picksDate_walkToEdge`,
`apply_picksDate`.
-/
import TimePhrase.Proofs.Calendar.Instant
import TimePhrase.Proofs.Calendar.MonthLength
import TimePhrase.Proofs.Calendar.Setting
import TimePhrase.Proofs.Errors

namespace TimePhrase

/-! ### Moves that pick a date -/

/-- Two references on one day, neither in a leap second, are both moved out of
the supported years, or both to one day with each its own time of day. -/
def PicksDate (move : DateTime → Except ResolveError DateTime) : Prop :=
  ∀ first second : DateTime, first.time.nano < 1000000000 → second.time.nano < 1000000000 →
    first.date = second.date →
    (move first = .error .outOfRange ∧ move second = .error .outOfRange) ∨
    ∃ moved other, move first = .ok moved ∧ move second = .ok other ∧ moved.date = other.date ∧
      moved.time = first.time ∧ other.time = second.time

/-- A move that finds a date from the date, and keeps the time of day. -/
theorem picksDate_of_date {move : DateTime → Except ResolveError DateTime}
    (target : DateTime → Option Date)
    (htarget : ∀ first second : DateTime, first.date = second.date → target first = target second)
    (hmove : ∀ dt, dt.time.nano < 1000000000 →
      move dt = ((target dt).bind dt.onDate?).elim (.error .outOfRange) .ok) :
    PicksDate move := by
  intro first second h1 h2 hdate
  rw [hmove first h1, hmove second h2, htarget first second hdate]
  cases target second with
  | none => exact .inl ⟨rfl, rfl⟩
  | some d =>
    simp only [Option.bind_some, DateTime.onDate?, Date.at?]
    by_cases hd : d.Supported
    · rw [dif_pos hd, dif_pos hd]
      exact .inr ⟨_, _, rfl, rfl, rfl, rfl, rfl⟩
    · rw [dif_neg hd, dif_neg hd]
      exact .inl ⟨rfl, rfl⟩

theorem PicksDate.congr {move other : DateTime → Except ResolveError DateTime}
    (h : PicksDate other) (heq : ∀ dt, move dt = other dt) : PicksDate move :=
  funext heq ▸ h

theorem picksDate_ok : PicksDate .ok :=
  fun _ _ _ _ hdate => .inr ⟨_, _, rfl, rfl, hdate, rfl, rfl⟩

/-- Moves that pick a date may follow one another, as the second one is given
references on one day too. -/
theorem PicksDate.bind {move next : DateTime → Except ResolveError DateTime} (h : PicksDate move)
    (hnext : PicksDate next) : PicksDate fun dt => (move dt).bind next := by
  intro first second h1 h2 hdate
  dsimp only
  rcases h first second h1 h2 hdate with ⟨hfirst, hsecond⟩ |
    ⟨moved, other, hfirst, hsecond, hmoved, htime, htime'⟩
  · rw [hfirst, hsecond]
    exact .inl ⟨rfl, rfl⟩
  · rw [hfirst, hsecond, ← htime, ← htime']
    exact hnext moved other (htime ▸ h1) (htime' ▸ h2) hmoved

/-! ### Shifts and weeks -/

/-- Outside of leap seconds, units of so many days are counted on the calendar. -/
theorem DateTime.shift_of_days {dt : DateTime} (h : dt.time.nano < 1000000000) {unit : TimeUnit}
    {length : Nat} (hu : unit.span = .nanos (length * 86400000000000)) (amount : Int) :
    dt.shift amount unit =
      (dt.onDate? (dt.date.addDays (amount * length))).elim (.error .outOfRange) .ok := by
  rw [shift_eq_addNanos? dt hu, addNanos?_days h]

/-- A shift by days or coarser units, as many as the date tells. -/
theorem picksDate_shift (amount : Date → Int) {unit : TimeUnit}
    (hu : unit.isFinerThan .day = false) :
    PicksDate fun dt => dt.shift (amount dt.date) unit := by
  have hdays : ∀ (length : Nat), unit.span = .nanos (length * 86400000000000) →
      PicksDate fun dt => dt.shift (amount dt.date) unit := fun length hunit =>
    picksDate_of_date (fun dt => some (dt.date.addDays (amount dt.date * length)))
      (fun _ _ hdate => by rw [hdate]) fun _ hnano => DateTime.shift_of_days hnano hunit _
  have hmonths : ∀ (length : Nat), unit.span = .months length →
      PicksDate fun dt => dt.shift (amount dt.date) unit := fun length hunit =>
    picksDate_of_date (fun dt => some (dt.date.addMonths (amount dt.date * length)))
      (fun _ _ hdate => by rw [hdate]) fun dt _ => dt.shift_of_months hunit _
  cases unit with
  | year => exact hmonths 12 rfl
  | month => exact hmonths 1 rfl
  | week => exact hdays 7 rfl
  | day => exact hdays 1 rfl
  | hour | minute | second | millisecond => cases hu

/-- A week that is counted from a date that the date tells. -/
theorem picksDate_setWeekFrom? (start : Date → Date) (week : Nat) :
    PicksDate fun dt => (dt.setWeekFrom? (start dt.date) week).elim (.error .outOfRange) .ok := by
  refine picksDate_of_date (fun dt => if (start dt.date).weekStart.Supported then
      some ((start dt.date).weekStart.addDays (7 * ((week : Int) - 1) + dt.date.daysFromSunday))
    else none) (fun _ _ hdate => by rw [hdate]) fun dt _ => ?_
  rw [DateTime.setWeekFrom?]
  split <;> rfl

theorem picksDate_moveToEdgeWeek (edge : Edge) {container : TimeUnit}
    (h : container = .month ∨ container = .year) :
    PicksDate fun dt => moveToEdgeWeek dt edge container := by
  rcases h with rfl | rfl <;> cases edge
  · exact picksDate_setWeekFrom? Date.firstOfMonth 1
  · exact picksDate_setWeekFrom? Date.firstOfMonth (maxWeekOfMonth - 1)
  · exact picksDate_setWeekFrom? Date.firstOfYear 1
  · exact picksDate_setWeekFrom? Date.firstOfYear maxWeekOfYear

/-! ### Walks to an edge -/

/-- The fields that are part of the date. -/
def CalendarField.IsOfDate : CalendarField → Prop
  | month | dayOfWeek | dayOfMonth | dayOfYear => True
  | hourOfDay | minute | second | millisecond => False

/-- A unit not finer than the day stands for a field of the date. -/
theorem CalendarField.isOfDate_of_ofUnit? {unit container : TimeUnit} {field : CalendarField}
    (h : ofUnit? unit container = some field) (hu : unit.isFinerThan .day = false) :
    field.IsOfDate := by
  cases unit with
  | year | week => cases h
  | month =>
    cases h
    trivial
  | day => cases container <;> cases h <;> trivial
  | hour | minute | second | millisecond => cases hu

/-- The value of a field at an edge hangs on the date alone. -/
theorem CalendarField.atEdge_congr (field : CalendarField) (edge : Edge) {first second : DateTime}
    (hdate : first.date = second.date) : field.atEdge edge first = field.atEdge edge second := by
  cases edge with
  | first => rfl
  | last => cases field <;> simp only [atEdge, maximum, hdate]

/-- Setting a field of the date finds a date, and keeps the time of day. -/
theorem DateTime.setField?_eq_bind {field : CalendarField} (h : field.IsOfDate) :
    ∃ target : Date → Nat → Option Date, ∀ (dt : DateTime) value, dt.time.nano < 1000000000 →
      dt.setField? field value = (target dt.date value).bind dt.onDate? := by
  cases field with
  | month =>
    refine ⟨fun d value => if h : 1 ≤ value ∧ value ≤ 12 then
      some (.pinned d.year value d.day h d.day_pos) else none, fun dt value _ => ?_⟩
    by_cases hvalue : 1 ≤ value ∧ value ≤ 12 <;> simp [setField?, setMonth?, hvalue]
  | dayOfWeek =>
    exact ⟨fun d value => some (d.addDays (value - d.dayOfWeek)), fun dt value hnano =>
      addNanos?_days hnano _⟩
  | dayOfMonth => exact ⟨fun d value => Date.ofFields? d.year d.month value, fun _ _ _ => rfl⟩
  | dayOfYear => exact ⟨fun d value => Date.ofDayOfYear? d.year value, fun _ _ _ => rfl⟩
  | hourOfDay | minute | second | millisecond => exact h.elim

theorem picksDate_setField? {field : CalendarField} (h : field.IsOfDate) (edge : Edge) :
    PicksDate fun dt =>
      (dt.setField? field (field.atEdge edge dt)).elim (.error .outOfRange) .ok := by
  obtain ⟨target, htarget⟩ := DateTime.setField?_eq_bind h
  refine picksDate_of_date (fun dt => target dt.date (field.atEdge edge dt))
    (fun first second hdate => ?_) fun dt hnano => ?_
  · rw [hdate, field.atEdge_congr edge hdate]
  · rw [htarget dt _ hnano]

/-- On the way to a unit not finer than the day no level is finer than the day. -/
theorem Ahead.coarse {unit container level : TimeUnit} {levels : List TimeUnit} {inside : Bool}
    (h : Ahead unit container (level :: levels) inside) (hday : unit.isFinerThan .day = false) :
    level.isFinerThan .day = false := by
  by_cases hne : level = unit
  · rw [hne, hday]
  · have hrank := h.rank_lt hne
    simp only [TimeUnit.isFinerThan, decide_eq_false_iff_not] at hday ⊢
    omega

/-- A walk to a unit not finer than the day sets fields of the date only. -/
theorem picksDate_walkToEdge (edge : Edge) {unit container : TimeUnit}
    (hu : unit.isFinerThan container = true) (hw : unit ≠ .week)
    (hday : unit.isFinerThan .day = false) : ∀ {levels : List TimeUnit} {inside : Bool},
      Ahead unit container levels inside →
      PicksDate (DateTime.walkToEdge edge unit container levels inside)
  | [], _, h => absurd h.unit_mem List.not_mem_nil
  | level :: levels, inside, h => by
    have ih : level ≠ unit → PicksDate
        (DateTime.walkToEdge edge unit container levels (inside || level = container)) :=
      fun hne => picksDate_walkToEdge edge hu hw hday (h.next hne)
    -- weeks, and levels outside of the container, are passed over
    by_cases hweek : level = .week
    · refine (ih (hweek.trans_ne hw.symm)).congr fun dt => ?_
      rw [DateTime.walkToEdge, if_pos hweek]
    cases inside with
    | false =>
      have hne : level ≠ unit := h.ne_unit hu
      exact (ih hne).congr fun dt => DateTime.walkToEdge_outside edge dt hweek hne
    | true =>
      obtain ⟨field, hfield⟩ := h.exists_field hweek
      have hset := picksDate_setField? (field.isOfDate_of_ofUnit? hfield (h.coarse hday)) edge
      by_cases hne : level = unit
      · refine hset.congr fun dt => ?_
        rw [DateTime.walkToEdge_inside edge dt hweek hfield]
        simp only [if_pos hne]
      · refine (hset.bind (ih hne)).congr fun dt => ?_
        rw [DateTime.walkToEdge_inside edge dt hweek hfield]
        simp only [if_neg hne]
        cases dt.setField? field (field.atEdge edge dt) <;> rfl

/-! ### Phrases -/

/-- The unit of the capture, if it has one, is not finer than the day. -/
def Capture.IsDayLevel : Capture → Prop
  | changeUnit _ unit | firstLastUnit _ unit _ => unit.isFinerThan .day = false
  | near _ | dayOfWeek .. | month .. | firstLastWeek .. => True

/-- **The time of day does not influence which date a phrase picks.** What is
captured of a text about days or coarser units moves two references on one day
to one day, each with its time of day to the nanosecond, or finds for both
that no supported date is left. -/
theorem apply_picksDate {text : Text} {r : Recognizer} {c : Capture}
    (h : r.recognize text = some c) (hday : c.IsDayLevel) : PicksDate c.apply := by
  have hs : c.Sound := (recognize_eq_some_iff.mp h).sound.2
  have hunit : TimeUnit.day.isFinerThan .day = false := rfl
  cases c with
  | near word => cases word with
    | now | today => exact picksDate_ok
    | tomorrow => exact picksDate_shift (fun _ => 1) hunit
    | yesterday => exact picksDate_shift (fun _ => -1) hunit
  | dayOfWeek qualifier weekday =>
    exact picksDate_shift (fun d => occurrenceOffset weekday.number d.dayOfWeek 7 qualifier) hunit
  | changeUnit direction unit => exact picksDate_shift (fun _ => direction.sign) hday
  | month qualifier number =>
    have hmonth : TimeUnit.month.isFinerThan .day = false := rfl
    exact picksDate_shift (fun d => occurrenceOffset number.toInt32.toInt d.month 12 qualifier)
      hmonth
  | firstLastWeek edge container => exact picksDate_moveToEdgeWeek edge hs
  | firstLastUnit edge unit container =>
    exact picksDate_walkToEdge edge hs.2 hs.1.1 hday (Ahead.hierarchy unit container)

/-- The last moment of the day that starts with the epoch. -/
def DateTime.epochNight : DateTime :=
  (DateTime.ofFields? 1970 1 1 23 59 59 999999999).get (by decide)

/-- From both ends of the day the last day of its week is the same. -/
theorem apply_last_day_of_the_week_epoch :
    Recognizer.firstLastUnit.recognize "last day of the week".toList =
        some (.firstLastUnit .last .day .week) ∧
      (Capture.firstLastUnit .last .day .week).IsDayLevel ∧
      ∃ moved other, (Capture.firstLastUnit .last .day .week).apply .epoch = .ok moved ∧
        (Capture.firstLastUnit .last .day .week).apply .epochNight = .ok other ∧
        moved.date = other.date ∧ moved.time = DateTime.epoch.time ∧
        other.time = DateTime.epochNight.time := by
  have h : Recognizer.firstLastUnit.recognize "last day of the week".toList =
      some (.firstLastUnit .last .day .week) := by decide
  have hpicks := apply_picksDate h rfl .epoch .epochNight (by decide) (by decide) (by decide)
  exact ⟨h, rfl, hpicks.resolve_left (by decide)⟩

end TimePhrase
