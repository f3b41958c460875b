/-
# The edge of a container

The edge of a container is the first or the last ordinary date-time in it that
keeps all that is finer than the unit (`IsEdge`). `DateTime.moveToEdge` finds
it (`DateTime.moveToEdge_isEdge`), and fails only where the week has its
Sunday or its Saturday outside of the supported years.

The walk passes over the levels down to the container and over the weeks, and
sets the others (`DateTime.walkToEdge_eq_below`). Each level that it sets has
just been enclosed by one that is settled, so it settles the level
(`DateTime.walkToEdge_settles`), and a settled unit is the edge of its
container (`DateTime.Settled.isEdge`).

Key definitions: `IsEdge`, `levelsBelow`, `Date.weekEdge`.
Key theorems: `IsEdge.eq_of_isEdge`, `DateTime.walkToEdge_eq_below`,
`DateTime.walkToEdge_settles`, `DateTime.moveToEdge_ok_iff`,
`DateTime.moveToEdge_isEdge`.
-/
import TimePhrase.Proofs.Calendar.Settling

namespace TimePhrase

variable {edge : Edge} {unit container outer : TimeUnit} {levels : List TimeUnit} {inside : Bool}
  {dt next moved : DateTime}

/-- The date-time is the first or the last ordinary one in the container of
`dt` that keeps of `dt` all that is finer than the unit. -/
structure IsEdge (edge : Edge) (unit container : TimeUnit) (dt moved : DateTime) : Prop where
  ordinary : moved.time.nano < 1000000000
  within : SameUnit container dt moved
  keeps : dt.KeepsBelow unit moved
  extreme : ∀ other : DateTime, other.time.nano < 1000000000 → SameUnit container dt other →
    dt.KeepsBelow unit other → edge.Leads moved.instant other.instant

/-- A container has one edge, also when it is told by the edge itself. -/
theorem IsEdge.eq_of_isEdge (h : IsEdge edge unit container dt next)
    (h' : IsEdge edge unit container next moved) : moved = next := by
  have hfirst := h.extreme moved h'.ordinary (h.within.trans h'.within) (h.keeps.trans h'.keeps)
  have hsecond := h'.extreme next h.ordinary (.refl container next) h.keeps.right
  refine DateTime.eq_of_instant h'.ordinary h.ordinary ?_
  cases edge with
  | first => exact Int.le_antisymm hsecond hfirst
  | last => exact Int.le_antisymm hfirst hsecond

/-! ### Levels below the container -/

/-- The levels that a walk sets, those below the container but for the week. -/
def levelsBelow (container : TimeUnit) (levels : List TimeUnit) : List TimeUnit :=
  levels.filter fun level => level ≠ .week ∧ level.isFinerThan container = true

/-- Each of the levels below a container is enclosed by the one before it. -/
theorem isChain_levelsBelow (container : TimeUnit) :
    List.IsChain TimeUnit.Encloses (container :: levelsBelow container TimeUnit.hierarchy) := by
  cases container <;> decide

namespace DateTime

/-- The other levels make no difference to a walk. -/
theorem walkToEdge_eq_below (edge : Edge) (hu : unit.isFinerThan container = true)
    (hw : unit ≠ .week) : ∀ {levels : List TimeUnit} {inside : Bool} (dt : DateTime),
      Ahead unit container levels inside →
      walkToEdge edge unit container levels inside dt =
        walkToEdge edge unit container (levelsBelow container levels) true dt
  | [], _, _, h => absurd h.unit_mem List.not_mem_nil
  | level :: levels, inside, dt, h => by
    by_cases hweek : level = .week
    · have hbelow : levelsBelow container (level :: levels) = levelsBelow container levels :=
        List.filter_cons_of_neg (by simp [hweek])
      rw [walkToEdge, if_pos hweek, hbelow]
      exact walkToEdge_eq_below edge hu hw dt (h.next (hweek.trans_ne hw.symm))
    cases inside with
    | false =>
      have hne : level ≠ unit := h.ne_unit hu
      have hbelow : levelsBelow container (level :: levels) = levelsBelow container levels :=
        List.filter_cons_of_neg (by simp [hweek, h.not_finer])
      rw [walkToEdge_outside edge dt hweek hne, hbelow]
      exact walkToEdge_eq_below edge hu hw dt (h.next hne)
    | true =>
      have hfiner : level.isFinerThan container = true :=
        decide_eq_true (h.finer rfl level List.mem_cons_self)
      have hbelow : levelsBelow container (level :: levels) =
          level :: levelsBelow container levels :=
        List.filter_cons_of_pos (by simp [hweek, hfiner])
      obtain ⟨field, hfield⟩ := h.exists_field hweek
      rw [hbelow, walkToEdge_inside edge dt hweek hfield, walkToEdge_inside edge dt hweek hfield]
      cases dt.setField? field (field.atEdge edge dt) with
      | none => rfl
      | some next =>
        rw [Option.elim_some, Option.elim_some]
        by_cases hne : level = unit
        · rw [if_pos hne, if_pos hne]
        · rw [if_neg hne, if_neg hne]
          exact walkToEdge_eq_below edge hu hw next (h.next hne)

/-- **A walk that is enclosed step by step settles its unit.** -/
theorem walkToEdge_settles : ∀ {levels : List TimeUnit} {outer : TimeUnit} {next : DateTime},
    List.IsChain TimeUnit.Encloses (outer :: levels) → .week ∉ levels →
      container.rank ≤ outer.rank → Settled edge container outer dt next →
      walkToEdge edge unit container levels true next = .ok moved →
      Settled edge container unit dt moved
  | [], _, _, _, _, _, _, hmoved => by cases hmoved
  | level :: levels, outer, next, hchain, hweek, hc, h, hmoved => by
    obtain ⟨hencloses, hchain⟩ := List.isChain_cons_cons.mp hchain
    have hlevel : level ≠ .week := (List.ne_of_not_mem_cons hweek).symm
    have hlevels := List.not_mem_of_not_mem_cons hweek
    have hrank := Nat.lt_of_le_of_lt hc hencloses.rank_lt
    obtain ⟨field, hfield⟩ := CalendarField.exists_ofUnit? hrank hlevel
    rw [walkToEdge_inside edge next hlevel hfield] at hmoved
    cases hset : next.setField? field (field.atEdge edge next) with
    | none =>
      rw [hset] at hmoved
      cases hmoved
    | some after =>
      rw [hset, Option.elim_some] at hmoved
      have hafter := h.step hencloses hc hfield hset
      by_cases hunit : level = unit
      · rw [if_pos hunit] at hmoved
        cases hmoved
        exact hunit ▸ hafter
      · rw [if_neg hunit] at hmoved
        exact walkToEdge_settles hchain hlevels (Nat.le_of_lt hrank) hafter hmoved

/-- A settled unit is at the edge: what keeps the same below the unit is in the
order of the units. -/
theorem Settled.isEdge (h : Settled edge container unit dt moved) :
    IsEdge edge unit container dt moved where
  ordinary := h.ordinary
  within := h.within
  keeps := h.keeps
  extreme other hother hin hkeeps := by
    have hleads := h.nearest other hother hin
    cases edge with
    | first => exact instant_le_of_unitNumber_le h.ordinary hother h.keeps hkeeps hleads
    | last => exact instant_le_of_unitNumber_le hother h.ordinary hkeeps h.keeps hleads

/-- What an ordinary date-time is moved to is an edge. -/
theorem isEdge_of_moveToEdge (hdt : dt.time.nano < 1000000000)
    (hu : unit.isFinerThan container = true) (hw : unit ≠ .week)
    (h : dt.moveToEdge edge unit container = .ok moved) : IsEdge edge unit container dt moved := by
  have hmilli : container ≠ .millisecond := by
    rintro rfl
    cases unit <;> cases hu
  rw [moveToEdge, walkToEdge_eq_below edge hu hw dt (Ahead.hierarchy unit container)] at h
  have hweek : .week ∉ levelsBelow container TimeUnit.hierarchy := by simp [levelsBelow]
  exact (walkToEdge_settles (isChain_levelsBelow container) hweek (Nat.le_refl _)
    (settled_self hdt hmilli) h).isEdge

/-! ### The ends of the calendar -/

end DateTime

/-- The Sunday or the Saturday of the date's week. -/
def Date.weekEdge (edge : Edge) (d : Date) : Date :=
  match edge with
  | .first => d.weekStart
  | .last => d.weekStart.addDays 6

namespace DateTime

/-- The day of the week at an edge is missing just if it is not supported. -/
theorem setDayOfWeek?_atEdge_eq_none_iff (hdt : dt.time.nano < 1000000000) :
    dt.setDayOfWeek? (CalendarField.dayOfWeek.atEdge edge dt) = none ↔
      ¬ (dt.date.weekEdge edge).Supported := by
  have hday : dt.date.addDays ((CalendarField.dayOfWeek.atEdge edge dt : Int) - dt.date.dayOfWeek) =
      dt.date.weekEdge edge := by
    refine Date.eq_of_dayNumber ?_
    cases edge <;> simp only [Date.weekEdge, Date.dayNumber_addDays, Date.dayNumber_weekStart,
      Date.dayOfWeek_eq, CalendarField.atEdge, CalendarField.minimum,
      CalendarField.maximum] <;> omega
  rw [setDayOfWeek?, addNanos?_days hdt, hday, onDate?, Date.at?_eq_none_iff]

/-- An edge within a week is found just if the Sunday or Saturday is supported. -/
theorem moveToEdge_week_ok_iff (edge : Edge) (hdt : dt.time.nano < 1000000000)
    (hu : unit.isFinerThan .week = true) :
    (∃ moved, dt.moveToEdge edge unit .week = .ok moved) ↔ (dt.date.weekEdge edge).Supported := by
  rw [← not_iff_not, ← setDayOfWeek?_atEdge_eq_none_iff hdt]
  constructor
  · intro hmissed
    by_contra hday
    exact hmissed (moveToEdge_week_ok edge dt hu hday)
  · rintro hnone ⟨moved, hmoved⟩
    rw [moveToEdge_week dt edge hu, hnone] at hmoved
    cases hmoved

/-- The edge of a container is found unless it is a week that reaches out of the
supported years. -/
theorem moveToEdge_ok_iff (edge : Edge) (hdt : dt.time.nano < 1000000000)
    (hu : unit.isFinerThan container = true) (hw : unit ≠ .week) :
    (∃ moved, dt.moveToEdge edge unit container = .ok moved) ↔
      (container = .week → (dt.date.weekEdge edge).Supported) := by
  by_cases hc : container = .week
  · subst hc
    rw [moveToEdge_week_ok_iff edge hdt hu]
    exact ⟨fun h _ => h, fun h => h rfl⟩
  · exact ⟨fun _ h => absurd h hc, fun _ => moveToEdge_ok_of_ne_week edge dt hu hw hc⟩

end DateTime

theorem SameUnit.weekEdge_eq {a b : DateTime} (h : SameUnit .week a b) (edge : Edge) :
    a.date.weekEdge edge = b.date.weekEdge edge := by
  have hweek : a.date.weekStart = b.date.weekStart := h
  cases edge <;> rw [Date.weekEdge, Date.weekEdge, hweek]

/-- **`moveToEdge` finds the edge of the container.** From an ordinary date-time
it fails only where the container is a week whose Sunday or Saturday is not
supported. Otherwise it finds the first or the last ordinary date-time of the
container that keeps all that is finer than the unit, and finds it again from
there. -/
theorem DateTime.moveToEdge_isEdge (hdt : dt.time.nano < 1000000000) (edge : Edge)
    (hu : unit.isFinerThan container = true) (hw : unit ≠ .week) :
    (dt.moveToEdge edge unit container = .error .outOfRange ∧ container = .week ∧
        ¬ (dt.date.weekEdge edge).Supported) ∨
      ((container = .week → (dt.date.weekEdge edge).Supported) ∧
        ∃ moved, dt.moveToEdge edge unit container = .ok moved ∧
          IsEdge edge unit container dt moved ∧
          moved.moveToEdge edge unit container = .ok moved) := by
  have hiff := moveToEdge_ok_iff edge hdt hu hw
  rcases dt.moveToEdge_ok_or_outOfRange edge hu hw with ⟨moved, hmoved⟩ | hout
  · have hsupported := hiff.mp ⟨moved, hmoved⟩
    have hedge := isEdge_of_moveToEdge hdt hu hw hmoved
    refine .inr ⟨hsupported, moved, hmoved, hedge, ?_⟩
    -- the week of the edge is that of the date-time, so there is an edge again
    have hagain : container = .week → (moved.date.weekEdge edge).Supported := by
      rintro rfl
      exact hedge.within.weekEdge_eq edge ▸ hsupported rfl
    obtain ⟨other, hother⟩ := (moveToEdge_ok_iff edge hedge.ordinary hu hw).mpr hagain
    rw [hother, hedge.eq_of_isEdge (isEdge_of_moveToEdge hedge.ordinary hu hw hother)]
  · refine .inl ⟨hout, ?_⟩
    by_contra hsupported
    obtain ⟨moved, hmoved⟩ := hiff.mpr fun hc => by_contra fun h => hsupported ⟨hc, h⟩
    rw [hout] at hmoved
    cases hmoved

/-- The last Tuesday of 2015, in a week that reaches into the next year. -/
def DateTime.endOf2015 : DateTime :=
  (DateTime.ofFields? 2015 12 29 12 34 56 789123456).get (by decide)

/-- The last hour of a week is found, though it lies in the next year; the last
week of the calendar has no Saturday to find it on. -/
theorem DateTime.moveToEdge_last_hour_of_week :
    DateTime.endOf2015.time.nano < 1000000000 ∧ DateTime.latest.time.nano < 1000000000 ∧
      TimeUnit.hour.isFinerThan .week = true ∧ TimeUnit.hour ≠ .week ∧
      (∃ moved, DateTime.endOf2015.moveToEdge .last .hour .week = .ok moved ∧
        IsEdge .last .hour .week .endOf2015 moved ∧
        moved.moveToEdge .last .hour .week = .ok moved) ∧
      DateTime.latest.moveToEdge .last .hour .week = .error .outOfRange := by
  have hdt : DateTime.endOf2015.time.nano < 1000000000 := by decide
  have hlatest : DateTime.latest.time.nano < 1000000000 := by decide
  have hu : TimeUnit.hour.isFinerThan .week = true := rfl
  have hw : TimeUnit.hour ≠ .week := by decide
  have hfound := (moveToEdge_isEdge hdt .last hu hw).resolve_left fun h => h.2.2 (by decide)
  have hmissed := (moveToEdge_isEdge hlatest .last hu hw).resolve_right fun h =>
    absurd (h.1 rfl) (by decide)
  exact ⟨hdt, hlatest, hu, hw, hfound.2, hmissed.1⟩

end TimePhrase
