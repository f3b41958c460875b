/-
# Away from the ends of the calendar every phrase has a time

The inner years are the supported ones but for the first and the last. From a
date in them nothing that a phrase can ask for leads out of the supported
years: not a year of days, nor twelve months (`Date.Inner.supported_addDays`,
`Date.Inner.supported_addMonths`), nor a week of the month or the year, counted
from a Sunday that may lie in the year before and up to the week 53 that may
lie in the year after (`DateTime.setWeekFrom?_ne_none`), nor a day of the week
on the way to an edge (`DateTime.moveToEdge_ok`). So what is captured of a
phrase can be applied (`Capture.apply_ok`), and only the first and the last
year are too narrow for a phrase (`resolve_ne_outOfRange`).

Key definition: `Date.Inner`.
Key theorems: `Date.Inner.supported_addDays`, `Date.Inner.supported_addMonths`,
`DateTime.addNanos?_ne_none`, `DateTime.setWeekFrom?_ne_none`,
`DateTime.moveToEdge_ok`, `Capture.apply_ok`, `resolve_ne_outOfRange`.
-/
import TimePhrase.Proofs.Calendar.Instant
import TimePhrase.Proofs.Calendar.MonthLength
import TimePhrase.Proofs.Calendar.Setting
import TimePhrase.Proofs.Chain.Basic
import TimePhrase.Proofs.Occurrence

namespace TimePhrase

/-! ### Dates -/

/-- The supported years but for the first and the last. -/
def Date.Inner (d : Date) : Prop :=
  minYear < d.year ∧ d.year < maxYear

namespace Date.Inner

variable {d : Date}

theorem dayNumber_bounds (h : d.Inner) :
    daysBeforeYear (minYear + 1) ≤ d.dayNumber ∧ d.dayNumber < daysBeforeYear maxYear :=
  ⟨le_year_iff.mp h.1, Int.not_le.mp fun hlast => absurd h.2 (Int.not_lt.mpr (le_year_iff.mpr hlast))⟩

theorem supported_addDays (h : d.Inner) {days : Int} (h1 : -365 ≤ days) (h2 : days ≤ 365) :
    (d.addDays days).Supported := by
  have hd := h.dayNumber_bounds
  have hfirst : daysBeforeYear (minYear + 1) = daysBeforeYear minYear + 365 := by decide
  have hlast : daysBeforeYear (maxYear + 1) = daysBeforeYear maxYear + 365 := by decide
  rw [supported_iff_dayNumber, dayNumber_addDays]
  omega

theorem supported_addMonths (h : d.Inner) {months : Int} (h1 : -12 ≤ months) (h2 : months ≤ 12) :
    (d.addMonths months).Supported := by
  have hmonth := d.month_bounds
  obtain ⟨hmin, hmax⟩ := h
  rw [Supported, YearSupported, year_addMonths]
  omega

end Date.Inner

/-! ### Weeks and shifts -/

/-- So many spans make up at most a week of exact time or a year of months. -/
def Span.Near (amount : Int) : Span → Prop
  | .months count => -12 ≤ amount * count ∧ amount * count ≤ 12
  | .nanos length => -604800000000000 ≤ amount * length ∧ amount * length ≤ 604800000000000

instance (amount : Int) (span : Span) : Decidable (span.Near amount) := by
  cases span <;> exact inferInstanceAs (Decidable (_ ∧ _))

namespace DateTime

variable {dt : DateTime}

theorem elim_ok {result : Option DateTime} (h : result ≠ none) :
    ∃ moved, result.elim (.error .outOfRange) .ok = (.ok moved : Except ResolveError DateTime) := by
  obtain ⟨moved, hmoved⟩ := Option.ne_none_iff_exists'.mp h
  exact ⟨moved, elim_eq_ok_iff.mpr hmoved⟩

/-- A week that is counted from an inner date can be set, if it ends in a
supported year. -/
theorem setWeekFrom?_ne_none {first : Date} {week : Nat} (h : first.Inner) (hweek : 1 ≤ week)
    (hend : first.dayNumber + 7 * week ≤ daysBeforeYear (maxYear + 1)) :
    dt.setWeekFrom? first week ≠ none := by
  have hfirst := first.daysFromSunday_lt
  have hday := dt.date.daysFromSunday_lt
  have hbounds := h.dayNumber_bounds
  have hstart : first.weekStart.Supported := h.supported_addDays (by omega) (by omega)
  have hmin : daysBeforeYear (minYear + 1) = daysBeforeYear minYear + 365 := by decide
  rw [setWeekFrom?, if_pos hstart]
  refine onDate?_ne_none (Date.supported_iff_dayNumber.mpr ?_)
  rw [Date.weekStart, Date.dayNumber_addDays, Date.dayNumber_addDays]
  omega

theorem setWeekOfMonth?_ne_none (h : dt.date.Inner) {week : Nat} (h1 : 1 ≤ week) (h5 : week ≤ 5) :
    dt.setWeekOfMonth? week ≠ none := by
  have hinner : dt.date.firstOfMonth.Inner := h
  have hbounds := hinner.dayNumber_bounds
  have hlast : daysBeforeYear (maxYear + 1) = daysBeforeYear maxYear + 365 := by decide
  exact setWeekFrom?_ne_none hinner h1 (by omega)

/-- Week 53 ends at most a few days after the year, and so before the end of
the next one. -/
theorem setWeekOfYear?_ne_none (h : dt.date.Inner) {week : Nat} (h1 : 1 ≤ week)
    (h53 : week ≤ 53) : dt.setWeekOfYear? week ≠ none := by
  have hinner : dt.date.firstOfYear.Inner := h
  have hnext := daysBeforeYear_add_yearLength_le h.2
  have hlength : 365 ≤ yearLength dt.date.year := by
    unfold yearLength
    split <;> omega
  have hlast : daysBeforeYear (maxYear + 1) = daysBeforeYear maxYear + 365 := by decide
  refine setWeekFrom?_ne_none hinner h1 ?_
  rw [Date.firstOfYear, Date.dayNumber_newYear]
  omega

/-- The weeks that a phrase can ask for can be set. -/
theorem moveToEdgeWeek_ok (h : dt.date.Inner) (edge : Edge) {container : TimeUnit}
    (hc : container = .month ∨ container = .year) :
    ∃ moved, moveToEdgeWeek dt edge container = .ok moved := by
  rcases hc with rfl | rfl <;> cases edge
  · exact elim_ok (setWeekOfMonth?_ne_none h (by decide) (by decide))
  · exact elim_ok (setWeekOfMonth?_ne_none h (by decide) (by decide))
  · exact elim_ok (setWeekOfYear?_ne_none h (by decide) (by decide))
  · exact elim_ok (setWeekOfYear?_ne_none h (by decide) (by decide))

/-- An exact duration of at most a week leads to a supported day. -/
theorem addNanos?_ne_none (h : dt.date.Inner) {amount : Int} (h1 : -604800000000000 ≤ amount)
    (h2 : amount ≤ 604800000000000) : dt.addNanos? amount ≠ none := by
  have hsecond := dt.time.secondOfDay_lt
  have hnano := dt.time.nano_lt
  have hsecond' := (dt.time.addNanos amount).2.secondOfDay_lt
  have hnano' := (dt.time.addNanos amount).2.nano_lt
  have htotal := dt.time.addNanos_total_bounds amount
  rw [addNanos?, ne_eq, Date.at?_eq_none_iff, not_not]
  exact h.supported_addDays (by omega) (by omega)

/-- A shift over at most a week or a year has a result. -/
theorem shift_ok (h : dt.date.Inner) {amount : Int} {unit : TimeUnit}
    (hnear : unit.span.Near amount) : ∃ moved, dt.shift amount unit = .ok moved := by
  cases hunit : unit.span with
  | months count =>
    rw [hunit] at hnear
    rw [shift_of_months dt hunit]
    exact elim_ok (onDate?_ne_none (h.supported_addMonths hnear.1 hnear.2))
  | nanos length =>
    rw [hunit] at hnear
    rw [shift, hunit]
    exact elim_ok (addNanos?_ne_none h hnear.1 hnear.2)

/-! ### Edges -/

/-- A unit within a container is moved to its edge. -/
theorem moveToEdge_ok (h : dt.date.Inner) (edge : Edge) {unit container : TimeUnit}
    (hu : unit.isFinerThan container = true) (hw : unit ≠ .week) :
    ∃ moved, dt.moveToEdge edge unit container = .ok moved := by
  by_cases hc : container = .week
  · subst hc
    -- the day of the week is set on the reference itself, and only then may the year have changed
    have hvalue := atEdge_bounds .dayOfWeek edge dt
    have hnumber := dt.date.dayOfWeek_eq
    have hsunday := dt.date.daysFromSunday_lt
    simp only [CalendarField.minimum, CalendarField.maximum] at hvalue
    have hset : dt.setDayOfWeek? (CalendarField.dayOfWeek.atEdge edge dt) ≠ none :=
      addNanos?_ne_none h (by omega) (by omega)
    exact moveToEdge_week_ok edge dt hu hset
  · exact moveToEdge_ok_of_ne_week edge dt hu hw hc

end DateTime

/-! ### Captures and phrases -/

/-- What is captured of a phrase can be applied to a date-time of an inner
year. -/
theorem Capture.apply_ok {c : Capture} (hs : c.Sound) {reference : DateTime}
    (h : reference.date.Inner) : ∃ moved, c.apply reference = .ok moved := by
  cases c with
  | near word => cases word with
    | now | today => exact ⟨reference, rfl⟩
    | tomorrow =>
      have hnear : (TimeUnit.day.span).Near 1 := by decide
      exact DateTime.shift_ok h hnear
    | yesterday =>
      have hnear : (TimeUnit.day.span).Near (-1) := by decide
      exact DateTime.shift_ok h hnear
  | dayOfWeek qualifier weekday =>
    have hoffset := occurrenceOffset_bounds qualifier weekday.number_bounds
      reference.date.dayOfWeek_bounds
    rw [apply]
    refine DateTime.shift_ok h ?_
    rw [TimeUnit.span, Span.Near]
    omega
  | changeUnit direction unit =>
    refine DateTime.shift_ok h ?_
    cases direction <;> cases unit <;> decide
  | month qualifier number =>
    have hs : 1 ≤ number.toNat ∧ number.toNat ≤ 12 := hs
    have htarget : 1 ≤ number.toInt32.toInt ∧ number.toInt32.toInt ≤ 12 := by
      rw [toInt_toInt32_of_le hs.2]
      omega
    have hcurrent : 1 ≤ (reference.date.month : Int) ∧ (reference.date.month : Int) ≤ 12 := by
      have := reference.date.month_bounds
      omega
    have hoffset := occurrenceOffset_bounds qualifier htarget hcurrent
    rw [apply]
    refine DateTime.shift_ok h ?_
    rw [TimeUnit.span, Span.Near]
    omega
  | firstLastWeek edge container => exact DateTime.moveToEdgeWeek_ok h edge hs
  | firstLastUnit edge unit container => exact DateTime.moveToEdge_ok h edge hs.2 hs.1.1

/-- **Only the first and the last year are too narrow for a phrase.** From a
reference in any other year, in a leap second or not, all that is captured of
a text can be applied, and no phrase leads out of the supported years. -/
theorem resolve_ne_outOfRange {reference : DateTime} (h1 : -262142 ≤ reference.date.year)
    (h2 : reference.date.year ≤ 262141) :
    (∀ text r c, Recognizer.recognize r text = some c → ∃ moved, c.apply reference = .ok moved) ∧
      ∀ phrase, resolve phrase reference ≠ .error .outOfRange := by
  have hinner : reference.date.Inner := by
    rw [Date.Inner, minYear, maxYear]
    omega
  refine ⟨fun text r c h => ?_, fun phrase hout => ?_⟩
  · exact Capture.apply_ok (recognize_eq_some_iff.mp h).sound.2 hinner
  · rw [resolve_eq_resultOf] at hout
    cases hc : captureOf phrase with
    | none =>
      rw [hc] at hout
      cases hout
    | some c =>
      obtain ⟨moved, hmoved⟩ := Capture.apply_ok (sound_of_captureOf hc) hinner
      rw [hc, resultOf, Option.elim_some, hmoved] at hout
      cases hout

/-- The last moment of the inner years, in a leap second. -/
def DateTime.lastInner : DateTime :=
  (DateTime.ofFields? 262141 12 31 23 59 59 1999999999).get (by decide)

/-- The week 53 that the last inner year asks for lies in the last year. -/
theorem lastInner_last_week_of_year :
    (-262142 ≤ DateTime.lastInner.date.year ∧ DateTime.lastInner.date.year ≤ 262141) ∧
      (∃ moved, (Capture.firstLastWeek .last .year).apply .lastInner = .ok moved) ∧
      resolve "last week of the year" .lastInner ≠ .error .outOfRange := by
  have h1 : -262142 ≤ DateTime.lastInner.date.year := by decide
  have h2 : DateTime.lastInner.date.year ≤ 262141 := by decide
  have h := resolve_ne_outOfRange h1 h2
  exact ⟨⟨h1, h2⟩, h.1 "LAST WEEK OF THE YEAR".toList .firstLastWeek _ (by decide), h.2 _⟩

end TimePhrase
