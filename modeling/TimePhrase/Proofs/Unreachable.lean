/-
# Pairs of units that are out of reach

Years and weeks have no edge in any container, and no unit has one in a
container that is not coarser (`OutOfReach`). The walk meets such a unit before
it has entered the container (`DateTime.walkToEdge_not_finer`), or it looks for a
week, which it passes over, and comes to the end of the levels
(`DateTime.walkToEdge_week`). In both cases it reports the pair as unreachable.

But a walk that looks for a week sets all that it meets on its way, and in a week
it meets the day first. The day of the week is the one field that may have no
edge, and then the walk leaves the supported years before it can report the
pair. So a week within a week is out of range where its Sunday or its Saturday
is, and every other pair is told to be unreachable by itself, not by the
date-time (`DateTime.moveToEdge_usage_iff`). A leap second makes no difference: it
may turn the Sunday into the Monday after it, but the first supported day is a
Thursday.

Key definitions: `OutOfReach`, `ResolveError.IsUsage`.
Key theorems: `DateTime.walkToEdge_not_finer`, `DateTime.walkToEdge_week`,
`DateTime.setDayOfWeek?_atEdge_ne_none_iff`, `DateTime.moveToEdge_of_outOfReach`,
`DateTime.moveToEdge_cases`, `DateTime.moveToEdge_usage_iff`.
-/
import TimePhrase.Proofs.Calendar.TrueEdge
import TimePhrase.Proofs.WholeDays

namespace TimePhrase

variable {edge : Edge} {unit container : TimeUnit}

/-- The unit has no edges within the container. -/
def OutOfReach (unit container : TimeUnit) : Prop :=
  unit = .year ∨ unit = .week ∨ unit.isFinerThan container = false

instance : Decidable (OutOfReach unit container) :=
  inferInstanceAs (Decidable (_ ∨ _ ∨ _))

/-- A year is not finer than any container. -/
theorem OutOfReach.not_finer (h : OutOfReach unit container) (hw : unit ≠ .week) :
    unit.isFinerThan container = false := by
  rcases h with rfl | hweek | hfiner
  · cases container <;> rfl
  · exact absurd hweek hw
  · exact hfiner

/-- The other units are finer than the container and are set as fields. -/
theorem finer_of_not_outOfReach (h : ¬ OutOfReach unit container) :
    unit.isFinerThan container = true ∧ unit ≠ .week := by
  refine ⟨?_, fun hw => h (.inr (.inl hw))⟩
  by_contra hfiner
  exact h (.inr (.inr (Bool.eq_false_iff.mpr hfiner)))

/-- The error tells of units that cannot be used together. -/
def ResolveError.IsUsage : ResolveError → Prop
  | unreachable .. | noWeeksWithin _ => True
  | missing _ | notRecognized | outOfRange => False

namespace DateTime

/-! ### Walks that do not reach their unit -/

/-- A unit that is not finer than its container is met outside of it. -/
theorem walkToEdge_not_finer (edge : Edge) (hu : unit.isFinerThan container = false)
    (hw : unit ≠ .week) : ∀ {levels : List TimeUnit} (dt : DateTime),
      Ahead unit container levels false →
      walkToEdge edge unit container levels false dt = .error (.unreachable unit container)
  | [], _, h => absurd h.unit_mem List.not_mem_nil
  | level :: levels, dt, h => by
    by_cases hunit : level = unit
    · rw [walkToEdge, if_neg (hunit ▸ hw), if_neg Bool.false_ne_true, if_pos hunit]
    · have hrank := h.rank_lt hunit
      have hcoarse : unit.rank ≤ container.rank := Nat.not_lt.mp (of_decide_eq_false hu)
      have hc : level ≠ container := by
        rintro rfl
        omega
      have hnext := h.next hunit
      have houtside : (false || decide (level = container)) = false := by simp [hc]
      rw [houtside] at hnext
      by_cases hweek : level = .week
      · rw [walkToEdge, if_pos hweek, houtside]
        exact walkToEdge_not_finer edge hu hw dt hnext
      · rw [walkToEdge_outside edge dt hweek hunit, decide_eq_false hc]
        exact walkToEdge_not_finer edge hu hw dt hnext

/-- Weeks are passed over, so a walk to the week whose fields can all be set
comes to its end. -/
theorem walkToEdge_week : ∀ {levels : List TimeUnit} {inside : Bool} (dt : DateTime),
    (∀ level ∈ levels, ∀ field, CalendarField.ofUnit? level container = some field →
      ∀ dt : DateTime, dt.setField? field (field.atEdge edge dt) ≠ none) →
    walkToEdge edge .week container levels inside dt = .error (.unreachable .week container)
  | [], _, _, _ => rfl
  | level :: levels, inside, dt, hset => by
    have hothers := fun other hother => hset other (List.mem_cons_of_mem level hother)
    by_cases hweek : level = .week
    · rw [walkToEdge, if_pos hweek]
      exact walkToEdge_week dt hothers
    cases inside with
    | false =>
      rw [walkToEdge_outside edge dt hweek hweek]
      exact walkToEdge_week dt hothers
    | true =>
      cases hfield : CalendarField.ofUnit? level container with
      | none => rw [walkToEdge, if_neg hweek, if_pos rfl, hfield]
      | some field =>
        obtain ⟨next, hnext⟩ :=
          Option.ne_none_iff_exists'.mp (hset level List.mem_cons_self field hfield dt)
        rw [walkToEdge_inside edge dt hweek hfield, hnext, Option.elim_some, if_neg hweek]
        exact walkToEdge_week next hothers

/-! ### The week within the week -/

/-- The day of the week at an edge is missing just if it is not supported, also from
a leap second at the end of a day, where the first day is missed by one. -/
theorem setDayOfWeek?_atEdge_ne_none_iff (edge : Edge) (dt : DateTime) :
    dt.setDayOfWeek? (CalendarField.dayOfWeek.atEdge edge dt) ≠ none ↔
      (dt.date.weekEdge edge).Supported := by
  have hthursday : daysBeforeYear minYear % 7 = 5 := by decide
  have hdt := Date.supported_iff_dayNumber.mp dt.supported
  have hweek := dt.date.dayOfWeek_bounds
  rw [setDayOfWeek?, addNanos?, Ne, Date.at?_eq_none_iff, not_not, TimeOfDay.days_addNanos,
    Date.supported_iff_dayNumber, Date.supported_iff_dayNumber, Date.dayNumber_addDays]
  cases edge with
  | first =>
    simp only [CalendarField.atEdge, CalendarField.minimum, Date.weekEdge, Date.dayNumber_weekStart,
      Date.dayOfWeek_eq, Date.daysFromSunday]
    split <;> omega
  | last =>
    have hahead : ¬ ((CalendarField.dayOfWeek.atEdge .last dt : Int) - dt.date.dayOfWeek < 0) := by
      simp only [CalendarField.atEdge, CalendarField.maximum]
      omega
    rw [if_neg fun hends => hahead hends.2]
    simp only [CalendarField.atEdge, CalendarField.maximum, Date.weekEdge, Date.dayNumber_addDays,
      Date.dayNumber_weekStart, Date.dayOfWeek_eq]
    omega

/-- A walk to the week within the week sets the day of the week first, and finds
the pair unreachable if it can. -/
theorem moveToEdge_week_week (edge : Edge) (dt : DateTime) :
    dt.moveToEdge edge .week .week =
      if (dt.date.weekEdge edge).Supported then .error (.unreachable .week .week)
      else .error .outOfRange := by
  rw [moveToEdge_week_eq_walk dt edge (Nat.le_refl _), walkToEdge_inside edge dt (by decide) rfl]
  have hday := setDayOfWeek?_atEdge_ne_none_iff edge dt
  cases hset : dt.setDayOfWeek? (CalendarField.dayOfWeek.atEdge edge dt) with
  | none =>
    rw [setField?, hset, Option.elim_none, if_neg (mt hday.mpr (not_not_intro hset))]
  | some next =>
    have hsupported := hday.mp (by rw [hset]; exact Option.some_ne_none next)
    rw [setField?, hset, Option.elim_some, if_neg (by decide), if_pos hsupported]
    exact walkToEdge_week next fun level hlevel field =>
      setField?_ofUnit?_ne_none edge fun hlevelDay =>
        absurd hlevelDay (ne_day_of_mem_belowDay hlevel)

/-! ### All pairs -/

/-- A pair that is out of reach is reported as such, unless it is the week within
a week that reaches out of the supported years. -/
theorem moveToEdge_of_outOfReach (edge : Edge) (dt : DateTime) (h : OutOfReach unit container) :
    dt.moveToEdge edge unit container =
      if unit = .week ∧ container = .week ∧ ¬ (dt.date.weekEdge edge).Supported then
        .error .outOfRange
      else .error (.unreachable unit container) := by
  by_cases hw : unit = .week
  · subst hw
    by_cases hc : container = .week
    · subst hc
      rw [moveToEdge_week_week]
      by_cases hday : (dt.date.weekEdge edge).Supported <;> simp [hday]
    · rw [if_neg fun hout => hc hout.2.1]
      exact walkToEdge_week dt fun level _ field => setField?_ofUnit?_ne_none edge fun _ => hc
  · rw [if_neg fun hout => hw hout.1]
    exact walkToEdge_not_finer edge (h.not_finer hw) hw dt (Ahead.hierarchy unit container)

/-- A move has a result, leaves the supported years or is told to be unreachable. -/
theorem moveToEdge_cases (edge : Edge) (dt : DateTime) (unit container : TimeUnit) :
    (¬ OutOfReach unit container ∧ ∃ moved, dt.moveToEdge edge unit container = .ok moved) ∨
    ((OutOfReach unit container →
        unit = .week ∧ container = .week ∧ ¬ (dt.date.weekEdge edge).Supported) ∧
      dt.moveToEdge edge unit container = .error .outOfRange) ∨
    (OutOfReach unit container ∧
        (unit = .week → container = .week → (dt.date.weekEdge edge).Supported) ∧
      dt.moveToEdge edge unit container = .error (.unreachable unit container)) := by
  by_cases hreach : OutOfReach unit container
  · rw [moveToEdge_of_outOfReach edge dt hreach]
    split
    · rename_i hout
      exact .inr (.inl ⟨fun _ => hout, rfl⟩)
    · rename_i hin
      exact .inr (.inr ⟨hreach, fun hw hc => by_contra fun hday => hin ⟨hw, hc, hday⟩, rfl⟩)
  · obtain ⟨hu, hw⟩ := finer_of_not_outOfReach hreach
    exact (dt.moveToEdge_ok_or_outOfRange edge hu hw).imp (fun hok => ⟨hreach, hok⟩)
      fun hout => .inl ⟨fun h => absurd h hreach, hout⟩

/-- **Errors of usage are for the pairs that are out of reach.** Such a pair has no
result, and it causes an error of usage from every date-time and for both edges,
but for the week within the week: where the edge of the week is not supported, the
error is that the result is out of range. There are no other errors of usage. -/
theorem moveToEdge_usage_iff (dt : DateTime) (edge : Edge) (unit container : TimeUnit) :
    ((∃ error, dt.moveToEdge edge unit container = .error error ∧ error.IsUsage) ↔
      OutOfReach unit container ∧
        (unit = .week → container = .week → (dt.date.weekEdge edge).Supported)) ∧
    (OutOfReach unit container → ∀ moved, dt.moveToEdge edge unit container ≠ .ok moved) ∧
    ∀ error, dt.moveToEdge edge unit container = .error error →
      error = .unreachable unit container ∨ error = .outOfRange := by
  rcases moveToEdge_cases edge dt unit container with
    ⟨hin, moved, hmoved⟩ | ⟨hweek, hout⟩ | ⟨hreach, hday, herror⟩
  · rw [hmoved]
    exact ⟨iff_of_false nofun fun h => hin h.1, fun h => absurd h hin, nofun⟩
  · rw [hout]
    refine ⟨iff_of_false ?_ fun h => ?_, fun _ moved => nofun,
      fun error h => .inr (Except.error.inj h).symm⟩
    · rintro ⟨error, h, husage⟩
      cases h
      exact husage
    · obtain ⟨hw, hc, hday⟩ := hweek h.1
      exact hday (h.2 hw hc)
  · rw [herror]
    exact ⟨iff_of_true ⟨_, rfl, trivial⟩ ⟨hreach, hday⟩, fun _ moved => nofun,
      fun error h => .inl (Except.error.inj h).symm⟩

/-- The first week of the calendar has no Sunday, and so the week within it is out
of range. -/
theorem not_moveToEdge_usage_iff :
    ¬ ∀ (dt : DateTime) (edge : Edge) (unit container : TimeUnit),
      (∃ error, dt.moveToEdge edge unit container = .error error ∧ error.IsUsage) ↔
        OutOfReach unit container := by
  intro h
  obtain ⟨error, herror, husage⟩ := (h .earliest .first .week .week).mpr (by decide)
  have hout : DateTime.earliest.moveToEdge .first .week .week = .error .outOfRange := by decide
  rw [hout] at herror
  cases herror
  exact husage

end DateTime

end TimePhrase
