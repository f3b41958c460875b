/-
# Edges of nested containers

An edge can be found in one move or in two. Let a unit that is no week lie
between a finer unit and a container. The edge of that unit in the container,
and from there the edge of the finer unit in it, is the edge that one move
finds, and where the first of the two moves fails the one move fails too
(`DateTime.moveToEdge_nested`).

The walk to the finer unit starts with the walk to the unit in between
(`DateTime.walkToEdge_split`). The levels that are left are those below that
unit, and they are set as the same fields in both containers, but for the day:
it is a day of the year in the one walk and a day of the month in the other. By
then the month is the first or the last of the year, and so both are the first
of January or the last of December
(`DateTime.setField?_dayOfYear_eq_dayOfMonth`).

Key theorems: `DateTime.walkToEdge_split`, `CalendarField.ofUnit?_nested`,
`DateTime.setField?_dayOfYear_eq_dayOfMonth`, `DateTime.walkToEdge_nested`,
`DateTime.moveToEdge_nested`.
-/
import TimePhrase.Proofs.Calendar.TrueEdge

namespace TimePhrase

variable {edge : Edge} {unit mid container level : TimeUnit} {levels : List TimeUnit}
  {inside : Bool} {dt next : DateTime}

theorem TimeUnit.isFinerThan_trans (hum : unit.isFinerThan mid = true)
    (hmc : mid.isFinerThan container = true) : unit.isFinerThan container = true := by
  rw [isFinerThan, decide_eq_true_iff] at *
  exact Nat.lt_trans hmc hum

/-! ### Levels below a unit -/

theorem week_not_mem_levelsBelow (container : TimeUnit) (levels : List TimeUnit) :
    .week ∉ levelsBelow container levels := by
  simp [levelsBelow]

/-- The levels below a unit are among those below its container. -/
theorem levelsBelow_levelsBelow (hmc : mid.isFinerThan container = true) (levels : List TimeUnit) :
    levelsBelow mid (levelsBelow container levels) = levelsBelow mid levels := by
  rw [levelsBelow, levelsBelow, List.filter_filter, levelsBelow]
  refine List.filter_congr fun level _ => ?_
  rw [Bool.eq_iff_iff, Bool.and_eq_true, decide_eq_true_iff, decide_eq_true_iff]
  exact and_iff_left_of_imp fun h => ⟨h.1, TimeUnit.isFinerThan_trans h.2 hmc⟩

namespace Ahead

/-- The levels below the container alone lead to the unit as well. -/
theorem below (h : Ahead unit container levels inside) (hu : unit.isFinerThan container = true)
    (hw : unit ≠ .week) : Ahead unit container (levelsBelow container levels) true where
  sorted := h.sorted.filter _
  unit_mem := List.mem_filter.mpr ⟨h.unit_mem, decide_eq_true ⟨hw, hu⟩⟩
  container_mem hin := by cases hin
  finer _ level hlevel := by
    have hbelow := of_decide_eq_true (List.mem_filter.mp hlevel).2
    exact of_decide_eq_true hbelow.2

/-- Past a level all others are below it. -/
theorem levelsBelow_cons (h : Ahead unit container (level :: levels) inside)
    (hweek : .week ∉ levels) : levelsBelow level (level :: levels) = levels := by
  have hlater := (List.pairwise_cons.mp h.sorted).1
  rw [levelsBelow, List.filter_cons_of_neg (by simp [TimeUnit.isFinerThan])]
  refine List.filter_eq_self.mpr fun other hother => decide_eq_true ⟨?_, ?_⟩
  · exact ne_of_mem_of_not_mem hother hweek
  · exact decide_eq_true (hlater other hother)

/-- A level that comes before the unit is not below it. -/
theorem levelsBelow_cons_of_ne (h : Ahead unit container (level :: levels) inside)
    (hne : level ≠ unit) : levelsBelow unit (level :: levels) = levelsBelow unit levels :=
  List.filter_cons_of_neg (by simp [TimeUnit.isFinerThan, Nat.le_of_lt (h.rank_lt hne)])

end Ahead

/-! ### The walk to the unit in between -/

namespace DateTime

/-- **A walk leads over each unit in between.** It is the walk to that unit, and
then a walk over the levels below it. -/
theorem walkToEdge_split (edge : Edge) (hum : unit.isFinerThan mid = true) :
    ∀ {levels : List TimeUnit} (dt : DateTime),
      Ahead unit container levels true → Ahead mid container levels true → .week ∉ levels →
      walkToEdge edge unit container levels true dt =
        (walkToEdge edge mid container levels true dt).bind
          (walkToEdge edge unit container (levelsBelow mid levels) true)
  | [], _, h, _, _ => absurd h.unit_mem List.not_mem_nil
  | level :: levels, dt, h, h', hweek => by
    have hlevel : level ≠ .week := (List.ne_of_not_mem_cons hweek).symm
    have hlevels := List.not_mem_of_not_mem_cons hweek
    have hrank : mid.rank < unit.rank := of_decide_eq_true hum
    obtain ⟨field, hfield⟩ := h.exists_field hlevel
    rw [walkToEdge_inside edge dt hlevel hfield, walkToEdge_inside edge dt hlevel hfield]
    cases dt.setField? field (field.atEdge edge dt) with
    | none => rfl
    | some next =>
      rw [Option.elim_some, Option.elim_some]
      by_cases hmid : level = mid
      · -- the walk to `mid` is over, and nothing but levels below it are ahead
        subst hmid
        have hne : level ≠ unit := ne_of_apply_ne TimeUnit.rank (Nat.ne_of_lt hrank)
        rw [if_neg hne, if_pos rfl, h.levelsBelow_cons hlevels]
        rfl
      · have hne : level ≠ unit :=
          ne_of_apply_ne TimeUnit.rank (Nat.ne_of_lt (Nat.lt_trans (h'.rank_lt hmid) hrank))
        rw [if_neg hne, if_neg hmid, h'.levelsBelow_cons_of_ne hmid]
        exact walkToEdge_split edge hum next (h.next hne) (h'.next hmid) hlevels

end DateTime

/-! ### The walk from there -/

/-- In a container and in a unit of it the levels below are the same fields, but
for the day of a year and of a month. -/
theorem CalendarField.ofUnit?_nested (hlevel : level.isFinerThan mid = true)
    (hmc : mid.isFinerThan container = true) (hm : mid ≠ .week)
    (hday : ¬ (container = .year ∧ mid = .month)) :
    ofUnit? level container = ofUnit? level mid := by
  cases level with
  | year | month | week | hour | minute | second | millisecond => rfl
  | day =>
    cases mid with
    | year => exact absurd (of_decide_eq_true hmc) (Nat.not_lt_zero _)
    | month =>
      have hyear : container = .year :=
        TimeUnit.eq_of_rank (Nat.lt_one_iff.mp (of_decide_eq_true hmc))
      exact absurd ⟨hyear, rfl⟩ hday
    | week => exact absurd rfl hm
    | day | hour | minute | second | millisecond => cases hlevel

namespace DateTime

/-- Walks that set the same fields are the same. -/
theorem walkToEdge_congr (edge : Edge) : ∀ {levels : List TimeUnit} (dt : DateTime),
    Ahead unit mid levels true → .week ∉ levels →
      (∀ level ∈ levels, CalendarField.ofUnit? level container = CalendarField.ofUnit? level mid) →
      walkToEdge edge unit container levels true dt = walkToEdge edge unit mid levels true dt
  | [], _, h, _, _ => absurd h.unit_mem List.not_mem_nil
  | level :: levels, dt, h, hweek, hfields => by
    obtain ⟨hsame, hothers⟩ := List.forall_mem_cons.mp hfields
    have hlevel : level ≠ .week := (List.ne_of_not_mem_cons hweek).symm
    have hlevels := List.not_mem_of_not_mem_cons hweek
    obtain ⟨field, hfield⟩ := h.exists_field hlevel
    rw [walkToEdge_inside edge dt hlevel hfield,
      walkToEdge_inside edge dt hlevel (hsame.trans hfield)]
    cases dt.setField? field (field.atEdge edge dt) with
    | none => rfl
    | some next =>
      rw [Option.elim_some, Option.elim_some]
      by_cases hne : level = unit
      · rw [if_pos hne, if_pos hne]
      · rw [if_neg hne, if_neg hne]
        exact walkToEdge_congr edge next (h.next hne) hlevels hothers

/-- In the first or the last month of the year the edge of the year and that of
the month are the same day. -/
theorem setField?_dayOfYear_eq_dayOfMonth
    (hmonth : dt.date.month = CalendarField.month.atEdge edge dt) :
    dt.setField? .dayOfYear (CalendarField.dayOfYear.atEdge edge dt) =
      dt.setField? .dayOfMonth (CalendarField.dayOfMonth.atEdge edge dt) := by
  have hset : ∀ field : CalendarField, field ≠ .dayOfWeek →
      dt.setField? field (field.atEdge edge dt) ≠ none :=
    fun field hweek => setField?_atEdge_ne_none edge hweek dt
  obtain ⟨byYear, hbyYear⟩ := Option.ne_none_iff_exists'.mp (hset .dayOfYear (by decide))
  obtain ⟨byMonth, hbyMonth⟩ := Option.ne_none_iff_exists'.mp (hset .dayOfMonth (by decide))
  obtain ⟨hyear, hdayOfYear, htime⟩ := setDayOfYear?_eq_some hbyYear
  obtain ⟨hyear', hmonth', hday, htime'⟩ := setDay?_eq_some hbyMonth
  have hdate : byYear.date = byMonth.date := by
    refine Date.eq_of_dayOfYear (hyear.trans hyear'.symm) ?_
    rw [hdayOfYear, Date.dayOfYear, hyear', hmonth', hday, hmonth]
    cases edge with
    | first => rfl
    | last =>
      have hlast : daysBeforeMonth dt.date.year 12 + monthLength dt.date.year 12 =
          yearLength dt.date.year := daysBeforeMonth_thirteen dt.date.year
      simp only [CalendarField.atEdge, CalendarField.maximum] at hmonth ⊢
      rw [hmonth, hlast]
  rw [hbyYear, hbyMonth, DateTime.ext hdate (htime.trans htime'.symm)]

/-- From a unit on, which is at its edge in the container, a walk in the
container is the walk in the unit. -/
theorem walkToEdge_nested (hum : unit.isFinerThan mid = true)
    (hmc : mid.isFinerThan container = true) (hu : unit ≠ .week) (hm : mid ≠ .week)
    (hmonth : mid = .month → next.date.month = CalendarField.month.atEdge edge next) :
    walkToEdge edge unit container (levelsBelow mid TimeUnit.hierarchy) true next =
      walkToEdge edge unit mid (levelsBelow mid TimeUnit.hierarchy) true next := by
  have hahead := (Ahead.hierarchy unit mid).below hum hu
  have hweek := week_not_mem_levelsBelow mid TimeUnit.hierarchy
  by_cases hday : container = .year ∧ mid = .month
  · obtain ⟨rfl, rfl⟩ := hday
    have hlevels : levelsBelow .month TimeUnit.hierarchy = .day :: belowDay := rfl
    have hnotWeek : TimeUnit.day ≠ .week := by decide
    rw [hlevels] at hahead hweek ⊢
    rw [walkToEdge_inside edge next hnotWeek rfl, walkToEdge_inside edge next hnotWeek rfl,
      setField?_dayOfYear_eq_dayOfMonth (hmonth rfl)]
    cases next.setField? .dayOfMonth (CalendarField.dayOfMonth.atEdge edge next) with
    | none => rw [Option.elim_none, Option.elim_none]
    | some moved =>
      rw [Option.elim_some, Option.elim_some]
      by_cases hunit : .day = unit
      · rw [if_pos hunit, if_pos hunit]
      · rw [if_neg hunit, if_neg hunit]
        exact walkToEdge_congr edge moved (hahead.next hunit) (by decide) (by decide)
  · refine walkToEdge_congr edge next hahead hweek fun level hlevel => ?_
    have hbelow := of_decide_eq_true (List.mem_filter.mp hlevel).2
    exact CalendarField.ofUnit?_nested hbelow.2 hmc hm hday

/-! ### One move or two -/

/-- A month that was moved to the edge of its year is the first or the last. -/
theorem month_of_moveToEdge (hc : TimeUnit.month.isFinerThan container = true)
    (h : dt.moveToEdge edge .month container = .ok next) :
    next.date.month = CalendarField.month.atEdge edge next := by
  obtain ⟨last, field, -, hfield, hset⟩ := walkToEdge_last (P := fun _ => True) hc (by decide)
    (Ahead.hierarchy .month container) (fun _ _ _ _ _ _ _ _ _ => trivial) trivial h
  cases hfield
  rw [(setMonth?_eq_some hset).2.1]
  cases edge <;> rfl

/-- **An edge is found over each unit in between.** From any date-time, in a leap
second or not, the edge of a unit in a container is the edge of the unit in the
edge of one that lies between them, unless that is a week; and there is none
just if there is none of the unit in between. So the last day of the year is
the last day of its last month, and each year has one. -/
theorem moveToEdge_nested (dt : DateTime) (edge : Edge) :
    (∀ unit mid container : TimeUnit, unit.isFinerThan mid = true →
      mid.isFinerThan container = true → unit ≠ .week → mid ≠ .week →
        dt.moveToEdge edge unit container =
          (dt.moveToEdge edge mid container).bind fun next => next.moveToEdge edge unit mid) ∧
    ∃ month day, dt.moveToEdge edge .month .year = .ok month ∧
      month.moveToEdge edge .day .month = .ok day ∧ dt.moveToEdge edge .day .year = .ok day := by
  have hnested : ∀ unit mid container : TimeUnit, unit.isFinerThan mid = true →
      mid.isFinerThan container = true → unit ≠ .week → mid ≠ .week →
        dt.moveToEdge edge unit container =
          (dt.moveToEdge edge mid container).bind fun next => next.moveToEdge edge unit mid := by
    intro unit mid container hum hmc hu hm
    have huc := TimeUnit.isFinerThan_trans hum hmc
    have hunit := Ahead.hierarchy unit container
    have hmid := Ahead.hierarchy mid container
    have hto : dt.moveToEdge edge mid container =
        walkToEdge edge mid container (levelsBelow container TimeUnit.hierarchy) true dt :=
      walkToEdge_eq_below edge hmc hm dt hmid
    rw [moveToEdge, walkToEdge_eq_below edge huc hu dt hunit,
      walkToEdge_split edge hum dt (hunit.below huc hu) (hmid.below hmc hm)
        (week_not_mem_levelsBelow _ _), ← hto, levelsBelow_levelsBelow hmc]
    cases hnext : dt.moveToEdge edge mid container with
    | error _ => rfl
    | ok next =>
      have hmonth : mid = .month → next.date.month = CalendarField.month.atEdge edge next := by
        rintro rfl
        exact month_of_moveToEdge hmc hnext
      have hfrom : next.moveToEdge edge unit mid =
          walkToEdge edge unit mid (levelsBelow mid TimeUnit.hierarchy) true next :=
        walkToEdge_eq_below edge hum hu next (Ahead.hierarchy unit mid)
      exact (walkToEdge_nested hum hmc hu hm hmonth).trans hfrom.symm
  refine ⟨hnested, ?_⟩
  obtain ⟨month, hmonth⟩ : ∃ month, dt.moveToEdge edge .month .year = .ok month :=
    moveToEdge_ok_of_ne_week edge dt rfl (by decide) (by decide)
  obtain ⟨day, hday⟩ : ∃ day, month.moveToEdge edge .day .month = .ok day :=
    moveToEdge_ok_of_ne_week edge month rfl (by decide) (by decide)
  refine ⟨month, day, hmonth, hday, ?_⟩
  rw [hnested .day .month .year rfl rfl (by decide) (by decide), hmonth]
  exact hday

/-- A leap second at the end of April 2015. -/
def endOfApril : DateTime :=
  (ofFields? 2015 4 30 23 59 59 1500000000).get (by decide)

/-- By way of December, the last hour of the year lies on its 31st, in the leap
second still; the last week of the calendar has no last day, and so no last
hour. -/
theorem moveToEdge_nested_endOfApril :
    (TimeUnit.hour.isFinerThan .month = true ∧ TimeUnit.month.isFinerThan .year = true ∧
      TimeUnit.hour ≠ .week ∧ TimeUnit.month ≠ .week) ∧
    ((endOfApril.moveToEdge .last .month .year).bind fun next =>
      next.moveToEdge .last .hour .month) =
        .ok ((ofFields? 2015 12 31 23 59 59 1500000000).get (by decide)) ∧
    latest.moveToEdge .last .hour .week = .error .outOfRange := by
  have hyear := (moveToEdge_nested endOfApril .last).1 .hour .month .year rfl rfl (by decide)
    (by decide)
  have hweek := (moveToEdge_nested latest .last).1 .hour .day .week rfl rfl (by decide) (by decide)
  have hday : latest.moveToEdge .last .day .week = .error .outOfRange := by decide
  refine ⟨⟨rfl, rfl, by decide, by decide⟩, ?_, ?_⟩
  · rw [← hyear]
    decide
  · rw [hweek, hday]
    rfl

end DateTime

end TimePhrase
