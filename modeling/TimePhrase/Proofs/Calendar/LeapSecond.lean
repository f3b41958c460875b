/-
# What becomes of a leap second

Clocks show a leap second as the `:60` of a minute, so a time within one is
legal if its second is 59 (`TimeOfDay.Legal`). A time of day goes on in one of
two ways (`TimeOfDay.GoesOn`): its second and nanosecond are kept, or an exact
duration passes. Both keep a legal time legal and an ordinary time ordinary.

Whatever a capture asks for, the time of day goes on, but for the edge of a
second or of a millisecond. The last second of a container is a 59 and the
edge of a millisecond is no leap second, so these are legal too. The first
second of a container is a 0, and what the time had of a leap second stays
with it. This is the one way out of the legal times
(`Capture.legal_apply_iff`).

Key definitions: `TimeOfDay.Legal`, `TimeOfDay.GoesOn`,
`Capture.cutsLeapSecond`.
Key theorems: `TimeOfDay.GoesOn.legal`, `TimeOfDay.GoesOn.nano_lt`,
`DateTime.walkToEdge_time`, `Capture.nano_apply_lt`, `Capture.legal_apply_iff`,
`Capture.apply_ok_of_cutsLeapSecond`.
-/
import TimePhrase.Proofs.Calendar.Instant
import TimePhrase.Proofs.Calendar.MonthLength
import TimePhrase.Proofs.Calendar.Setting
import TimePhrase.Proofs.Errors

namespace TimePhrase

/-! ### Times of day -/

namespace TimeOfDay

/-- The time is one that clocks show: it lies within a leap second only if its
second is 59. -/
def Legal (t : TimeOfDay) : Prop :=
  1000000000 ≤ t.nano → t.second = 59

instance (t : TimeOfDay) : Decidable t.Legal :=
  inferInstanceAs (Decidable (_ → _))

/-- A time of day goes on to another: second and nanosecond are kept, or an
exact duration passes. -/
inductive GoesOn (t : TimeOfDay) : TimeOfDay → Prop
  | kept {t' : TimeOfDay} (hsecond : t'.second = t.second) (hnano : t'.nano = t.nano) : GoesOn t t'
  | passed (nanos : Int) : GoesOn t (t.addNanos nanos).2

variable {t t' : TimeOfDay}

theorem legal_of_nano_lt (h : t.nano < 1000000000) : t.Legal :=
  fun hleap => absurd h (Nat.not_lt.mpr hleap)

/-- A duration leaves a leap second for an ordinary time, or stays within it. -/
theorem legal_addNanos (h : t.Legal) (nanos : Int) : (t.addNanos nanos).2.Legal := by
  unfold addNanos
  dsimp only
  split
  · rename_i hleap
    split
    · exact legal_of_nano_lt (nano_carry_lt _ _)
    · split
      · exact legal_of_nano_lt (nano_carry_lt _ _)
      · exact fun _ => h (isLeap_iff.mp hleap)
  · exact legal_of_nano_lt (nano_carry_lt _ _)

/-- Going back by a second or more leaves a leap second. -/
theorem nano_addNanos_lt_of_back {nanos : Int} (h : nanos ≤ -1000000000) :
    (t.addNanos nanos).2.nano < 1000000000 := by
  have hsplit := Int.mul_tdiv_add_tmod nanos 1000000000
  have hpart := natAbs_tmod_lt nanos
  unfold addNanos
  dsimp only
  split
  · split
    · exact nano_carry_lt _ _
    · split
      · exact nano_carry_lt _ _
      · omega
  · exact nano_carry_lt _ _

namespace GoesOn

theorem legal (h : t.GoesOn t') (ht : t.Legal) : t'.Legal := by
  cases h with
  | kept hsecond hnano =>
    intro hleap
    rw [hsecond]
    exact ht (hnano ▸ hleap)
  | passed nanos => exact legal_addNanos ht nanos

theorem nano_lt (h : t.GoesOn t') (ht : t.nano < 1000000000) : t'.nano < 1000000000 := by
  cases h with
  | kept hsecond hnano => rwa [hnano]
  | passed nanos => exact nano_addNanos_lt ht nanos

end GoesOn

end TimeOfDay

/-! ### Shifts, weeks and edges -/

namespace DateTime

variable {dt moved : DateTime} {edge : Edge} {unit container : TimeUnit} {levels : List TimeUnit}
  {inside : Bool}

theorem goesOn_addNanos? {nanos : Int} (h : dt.addNanos? nanos = some moved) :
    dt.time.GoesOn moved.time := by
  rw [(Date.at?_eq_some_iff.mp h).2]
  exact .passed nanos

theorem goesOn_onDate? {d : Date} (h : dt.onDate? d = some moved) : dt.time.GoesOn moved.time := by
  rw [(onDate?_eq_some_iff.mp h).2]
  exact .kept rfl rfl

theorem goesOn_shift {amount : Int} (h : dt.shift amount unit = .ok moved) :
    dt.time.GoesOn moved.time := by
  cases hspan : unit.span with
  | months count =>
    rw [shift_of_months dt hspan, elim_eq_ok_iff] at h
    exact goesOn_onDate? h
  | nanos length =>
    rw [shift, hspan, elim_eq_ok_iff] at h
    exact goesOn_addNanos? h

theorem goesOn_setWeekFrom? {first : Date} {week : Nat}
    (h : dt.setWeekFrom? first week = some moved) : dt.time.GoesOn moved.time := by
  rw [setWeekFrom?, Option.ite_none_right_eq_some] at h
  exact goesOn_onDate? h.2

theorem goesOn_moveToEdgeWeek (hc : container = .month ∨ container = .year)
    (h : moveToEdgeWeek dt edge container = .ok moved) : dt.time.GoesOn moved.time := by
  rcases hc with rfl | rfl <;> cases edge <;> exact goesOn_setWeekFrom? (elim_eq_ok_iff.mp h)

/-- Setting a field other than the second and the millisecond hands on what
goes on with a time of day. Days of exact length pass only where the field is
the day of the week. -/
theorem setField?_time {Q : TimeOfDay → Prop} {field : CalendarField} {value : Nat}
    (hkept : ∀ t t' : TimeOfDay, t'.second = t.second → t'.nano = t.nano → Q t → Q t')
    (hpassed : field = .dayOfWeek → ∀ (t : TimeOfDay) (nanos : Int), Q t → Q (t.addNanos nanos).2)
    (hsecond : field ≠ .second) (hmilli : field ≠ .millisecond) (hQ : Q dt.time)
    (h : dt.setField? field value = some moved) : Q moved.time := by
  by_cases hweek : field = .dayOfWeek
  · subst hweek
    rw [(Date.at?_eq_some_iff.mp h).2]
    exact hpassed rfl _ _ hQ
  · obtain ⟨h1, h2⟩ := setField?_keeps_second hweek hsecond hmilli h
    exact hkept _ _ h1 h2 hQ

/-- **The time of day at the end of a walk.** A property that goes on with a
time of day holds in the end, or just before the second is set, or the
millisecond has been set. -/
theorem walkToEdge_time {Q : TimeOfDay → Prop}
    (hkept : ∀ t t' : TimeOfDay, t'.second = t.second → t'.nano = t.nano → Q t → Q t')
    (hpassed : container = .week → .day ∈ levels → ∀ (t : TimeOfDay) (nanos : Int), Q t →
      Q (t.addNanos nanos).2)
    (hu : unit.isFinerThan container = true) (hw : unit ≠ .week)
    (hahead : Ahead unit container levels inside) (hQ : Q dt.time)
    (h : walkToEdge edge unit container levels inside dt = .ok moved) :
    (unit ≠ .second ∧ Q moved.time) ∨
      (unit = .second ∧ moved.time.second = CalendarField.second.atEdge edge dt ∧
        ∃ t, Q t ∧ moved.time.nano = t.nano) ∨
      (unit = .millisecond ∧ moved.time.nano < 1000000000) := by
  have hset : ∀ level ∈ levels, level ≠ .second ∧ level ≠ .millisecond → ∀ field,
      CalendarField.ofUnit? level container = some field → ∀ dt next : DateTime, Q dt.time →
        dt.setField? field (field.atEdge edge dt) = some next → Q next.time := by
    intro level hlevel hclock field hfield dt next hdt hnext
    refine setField?_time hkept ?_ ?_ ?_ hdt hnext
    · rintro rfl
      obtain ⟨rfl, rfl⟩ := CalendarField.ofUnit?_eq_dayOfWeek_iff.mp hfield
      exact hpassed rfl hlevel
    · rintro rfl
      exact hclock.1 (CalendarField.ofUnit?_eq_second_iff.mp hfield)
    · rintro rfl
      exact hclock.2 (CalendarField.ofUnit?_eq_millisecond_iff.mp hfield)
  by_cases hmilli : unit = .millisecond
  · subst hmilli
    obtain ⟨last, field, -, hfield, hlast⟩ := walkToEdge_last hu hw hahead
      (fun _ _ _ _ _ _ _ _ _ => trivial) trivial h
    cases hfield
    have hmax : CalendarField.millisecond.atEdge edge last ≤ 999 :=
      (atEdge_bounds .millisecond edge last).2
    have hnano := nano_of_setNano? hlast
    exact .inr (.inr ⟨rfl, by omega⟩)
  have hcoarse : ∀ level : TimeUnit, level.rank < unit.rank →
      level ≠ .second ∧ level ≠ .millisecond := by
    intro level hrank
    have hsecond : TimeUnit.second.rank = 6 := rfl
    have hmillisecond : TimeUnit.millisecond.rank = 7 := rfl
    have hunit : unit.rank ≤ 6 := by
      cases unit with
      | millisecond => exact absurd rfl hmilli
      | year | month | week | day | hour | minute | second => decide
    constructor <;> rintro rfl <;> omega
  obtain ⟨last, field, hlastQ, hfield, hlast⟩ := walkToEdge_last hu hw hahead
    (fun level hlevel hrank => hset level hlevel (hcoarse level hrank)) hQ h
  by_cases hsecond : unit = .second
  · subst hsecond
    cases hfield
    obtain ⟨h1, h2⟩ := setSecond?_eq_some hlast
    refine .inr (.inl ⟨rfl, ?_, last.time, hlastQ, h2⟩)
    rw [h1]
    cases edge <;> rfl
  · exact .inl ⟨hsecond, hset unit hahead.unit_mem ⟨hsecond, hmilli⟩ field hfield last moved hlastQ hlast⟩

/-- From an ordinary time every edge has an ordinary time. -/
theorem nano_walkToEdge_lt (hu : unit.isFinerThan container = true) (hw : unit ≠ .week)
    (hahead : Ahead unit container levels inside) (hnano : dt.time.nano < 1000000000)
    (h : walkToEdge edge unit container levels inside dt = .ok moved) :
    moved.time.nano < 1000000000 := by
  have htime := walkToEdge_time (Q := fun t => t.nano < 1000000000)
    (fun _ _ _ hn ht => hn ▸ ht) (fun _ _ _ nanos ht => TimeOfDay.nano_addNanos_lt ht nanos)
    hu hw hahead hnano h
  rcases htime with ⟨-, hmoved⟩ | ⟨-, -, t, ht, hmoved⟩ | ⟨-, hmoved⟩
  · exact hmoved
  · exact hmoved ▸ ht
  · exact hmoved

/-- From a legal time every edge but the first second has a legal time. -/
theorem legal_moveToEdge (hu : unit.isFinerThan container = true) (hw : unit ≠ .week)
    (hlegal : dt.time.Legal) (hfirst : ¬ (edge = .first ∧ unit = .second))
    (h : dt.moveToEdge edge unit container = .ok moved) : moved.time.Legal := by
  have htime := walkToEdge_time (fun _ _ hs hn ht => TimeOfDay.GoesOn.legal (.kept hs hn) ht)
    (fun _ _ _ nanos ht => TimeOfDay.legal_addNanos ht nanos) hu hw (Ahead.hierarchy unit container)
    hlegal h
  rcases htime with ⟨-, hmoved⟩ | ⟨rfl, hsecond, -⟩ | ⟨-, hmoved⟩
  · exact hmoved
  · cases edge with
    | first => exact absurd ⟨rfl, rfl⟩ hfirst
    | last => exact fun _ => hsecond
  · exact TimeOfDay.legal_of_nano_lt hmoved

/-! ### The first second -/

/-- The first second of a container is a 0 with the nanosecond kept, as long as
no day of the week is set on the way. -/
theorem walkToEdge_firstSecond (hu : TimeUnit.second.isFinerThan container = true)
    (hweek : container = .week → .day ∉ levels) (hahead : Ahead .second container levels inside)
    (h : walkToEdge .first .second container levels inside dt = .ok moved) :
    moved.time.second = 0 ∧ moved.time.nano = dt.time.nano := by
  have htime := walkToEdge_time (Q := fun t => t.nano = dt.time.nano)
    (fun _ _ _ hn ht => hn.trans ht) (fun hc hday => absurd hday (hweek hc)) hu (by decide)
    hahead rfl h
  rcases htime with ⟨hne, -⟩ | ⟨-, hsecond, t, ht, hnano⟩ | ⟨hne, -⟩
  · exact absurd rfl hne
  · exact ⟨hsecond, hnano.trans ht⟩
  · cases hne

/-- The first day of the week of a Sunday is the Sunday itself. -/
theorem setDayOfWeek?_of_sunday (hday : dt.date.weekday = .sun) :
    dt.setDayOfWeek? 1 = some dt := by
  have hnumber : dt.date.dayOfWeek = 1 := by
    rw [Date.dayOfWeek, hday]
    rfl
  rw [setDayOfWeek?, hnumber]
  exact addNanos?_zero dt

/-- The first day of the week of another day lies before it, and so outside of
the leap second. -/
theorem nano_setDayOfWeek?_lt (hday : dt.date.weekday ≠ .sun)
    (h : dt.setDayOfWeek? 1 = some moved) : moved.time.nano < 1000000000 := by
  have hnumber : 2 ≤ dt.date.dayOfWeek := by
    revert hday
    rw [Date.dayOfWeek]
    cases dt.date.weekday <;> decide
  rw [(Date.at?_eq_some_iff.mp h).2]
  exact TimeOfDay.nano_addNanos_lt_of_back (by omega)

/-- A second of 0 with the fraction of a leap second is not legal. -/
theorem not_legal_of_firstSecond (hleap : dt.time.isLeap = true)
    (h : moved.time.second = 0 ∧ moved.time.nano = dt.time.nano) : ¬ moved.time.Legal := by
  have hnano := TimeOfDay.isLeap_iff.mp hleap
  intro hlegal
  have hsecond : moved.time.second = 59 := hlegal (h.2 ▸ hnano)
  rw [h.1] at hsecond
  cases hsecond

/-- In a leap second the first second of the week is legal but for a Sunday. -/
theorem legal_firstSecond_week_iff (hleap : dt.time.isLeap = true)
    (h : dt.moveToEdge .first .second .week = .ok moved) :
    moved.time.Legal ↔ dt.date.weekday ≠ .sun := by
  rw [moveToEdge_week dt .first rfl] at h
  by_cases hsunday : dt.date.weekday = .sun
  · have hday : dt.setDayOfWeek? (CalendarField.dayOfWeek.atEdge .first dt) = some dt :=
      setDayOfWeek?_of_sunday hsunday
    rw [hday, Option.elim_some, if_neg (by decide)] at h
    have hsecond := walkToEdge_firstSecond rfl (fun _ => by decide) (Ahead.belowDay rfl) h
    simp [hsunday, not_legal_of_firstSecond hleap hsecond]
  · cases hday : dt.setDayOfWeek? (CalendarField.dayOfWeek.atEdge .first dt) with
    | none =>
      rw [hday] at h
      cases h
    | some next =>
      rw [hday, Option.elim_some, if_neg (by decide)] at h
      have hnext := nano_setDayOfWeek?_lt hsunday hday
      have hmoved := nano_walkToEdge_lt rfl (by decide) (Ahead.belowDay rfl) hnext h
      simp [hsunday, TimeOfDay.legal_of_nano_lt hmoved]

/-- The first second of a container is legal, unless it is cut off from the
leap second that the date-time lies in. -/
theorem legal_firstSecond_iff (hu : TimeUnit.second.isFinerThan container = true)
    (h : dt.moveToEdge .first .second container = .ok moved) :
    moved.time.Legal ↔
      ¬ (dt.time.isLeap = true ∧ (container = .week → dt.date.weekday = .sun)) := by
  by_cases hnano : dt.time.nano < 1000000000
  · have hleap := TimeOfDay.isLeap_eq_false hnano
    have hmoved := nano_walkToEdge_lt hu (by decide) (Ahead.hierarchy .second container) hnano h
    simp [hleap, TimeOfDay.legal_of_nano_lt hmoved]
  have hleap := TimeOfDay.isLeap_iff.mpr (Nat.not_lt.mp hnano)
  by_cases hc : container = .week
  · subst hc
    rw [legal_firstSecond_week_iff hleap h]
    simp [hleap]
  · have hsecond := walkToEdge_firstSecond hu (fun hweek => absurd hweek hc)
      (Ahead.hierarchy .second container) h
    simp [hleap, hc, not_legal_of_firstSecond hleap hsecond]

/-- The first second of a container is found, that of a week at least from its
Sunday. -/
theorem firstSecond_ok (hu : TimeUnit.second.isFinerThan container = true)
    (hsunday : container = .week → dt.date.weekday = .sun) :
    ∃ moved, dt.moveToEdge .first .second container = .ok moved := by
  by_cases hc : container = .week
  · subst hc
    have hday : dt.setDayOfWeek? (CalendarField.dayOfWeek.atEdge .first dt) = some dt :=
      setDayOfWeek?_of_sunday (hsunday rfl)
    exact moveToEdge_week_ok .first dt rfl (Option.ne_none_iff_exists'.mpr ⟨dt, hday⟩)
  · exact moveToEdge_ok_of_ne_week .first dt hu (by decide) hc

end DateTime

/-! ### Captures -/

namespace Capture

variable {c : Capture} {reference moved : DateTime}

/-- The capture asks for the first second of a container, and the reference
lies in a leap second that it is cut off from. A week has to start on the day
itself for that: the way back to another day leaves the leap second. -/
def cutsLeapSecond (c : Capture) (reference : DateTime) : Bool :=
  match c with
  | firstLastUnit .first .second container =>
    reference.time.isLeap && (container ≠ .week || reference.date.weekday = .sun)
  | _ => false

theorem cutsLeapSecond_eq_true_iff :
    c.cutsLeapSecond reference = true ↔
      ∃ container, c = .firstLastUnit .first .second container ∧ reference.time.isLeap = true ∧
        (container = .week → reference.date.weekday = .sun) := by
  constructor
  · intro h
    unfold cutsLeapSecond at h
    split at h
    · rename_i container
      simp only [Bool.and_eq_true, Bool.or_eq_true, decide_eq_true_eq, ne_eq] at h
      exact ⟨container, rfl, h.1, fun hc => h.2.resolve_left (not_not.mpr hc)⟩
    · cases h
  · rintro ⟨container, rfl, hleap, hsunday⟩
    by_cases hc : container = .week
    · simp [cutsLeapSecond, hleap, hsunday hc]
    · simp [cutsLeapSecond, hleap, hc]

/-- But for the edge of a unit, a capture lets the time of day go on. -/
theorem goesOn_apply (hs : c.Sound) (h : c.apply reference = .ok moved) :
    reference.time.GoesOn moved.time ∨
      ∃ edge unit container, c = .firstLastUnit edge unit container := by
  cases c with
  | near word => cases word with
    | now | today =>
      cases h
      exact .inl (.kept rfl rfl)
    | tomorrow | yesterday =>
      rw [apply] at h
      exact .inl (DateTime.goesOn_shift h)
  | dayOfWeek | changeUnit | month =>
    rw [apply] at h
    exact .inl (DateTime.goesOn_shift h)
  | firstLastWeek edge container => exact .inl (DateTime.goesOn_moveToEdgeWeek hs h)
  | firstLastUnit edge unit container => exact .inr ⟨edge, unit, container, rfl⟩

/-- **From an ordinary time a phrase leads to an ordinary time.** -/
theorem nano_apply_lt (hs : c.Sound) (hnano : reference.time.nano < 1000000000)
    (h : c.apply reference = .ok moved) : moved.time.nano < 1000000000 := by
  rcases goesOn_apply hs h with hgoes | ⟨edge, unit, container, rfl⟩
  · exact hgoes.nano_lt hnano
  · exact DateTime.nano_walkToEdge_lt hs.2 hs.1.1 (Ahead.hierarchy unit container) hnano h

/-- **From a legal time a phrase leads to a legal time,** unless it cuts off
the first second of a container from a leap second. -/
theorem legal_apply_iff (hs : c.Sound) (hlegal : reference.time.Legal)
    (h : c.apply reference = .ok moved) :
    moved.time.Legal ↔ ¬ c.cutsLeapSecond reference = true := by
  rw [cutsLeapSecond_eq_true_iff]
  by_cases hfirst : ∃ container, c = .firstLastUnit .first .second container
  · obtain ⟨container, rfl⟩ := hfirst
    rw [DateTime.legal_firstSecond_iff hs.2 h]
    simp
  · have hmoved : moved.time.Legal := by
      rcases goesOn_apply hs h with hgoes | ⟨edge, unit, container, rfl⟩
      · exact hgoes.legal hlegal
      · refine DateTime.legal_moveToEdge hs.2 hs.1.1 hlegal ?_ h
        rintro ⟨rfl, rfl⟩
        exact hfirst ⟨container, rfl⟩
    refine ⟨fun _ => ?_, fun _ => hmoved⟩
    rintro ⟨container, hc, -⟩
    exact hfirst ⟨container, hc⟩

theorem apply_ok_of_cutsLeapSecond (hs : c.Sound) (h : c.cutsLeapSecond reference = true) :
    ∃ moved, c.apply reference = .ok moved := by
  obtain ⟨container, rfl, -, hsunday⟩ := cutsLeapSecond_eq_true_iff.mp h
  exact DateTime.firstSecond_ok hs.2 hsunday

end Capture

end TimePhrase
