/-
# Setting a field

Within its bounds a field can be set to every value (`DateTime.setField?_ne_none`),
and so to its edges, in every supported year; only a day of the week may lie in
another year. And but for the second and the millisecond themselves, and the day
of the week, whose move is an exact duration, setting a field leaves the second
and the nanosecond as they are (`DateTime.setField?_keeps_second`).

A walk inside of a week sets the day of the week first
(`DateTime.moveToEdge_week`), and never again.

Key theorems: `DateTime.onDate?_eq_some_iff`, `DateTime.setField?_ne_none`,
`DateTime.setField?_atEdge_ne_none`, `DateTime.setField?_keeps_second`,
`DateTime.moveToEdge_week`, `DateTime.setField?_ofUnit?_ne_none`,
`DateTime.walkToEdge_belowDay_ok`, `DateTime.moveToEdge_week_ok`,
`DateTime.moveToEdge_ok_of_ne_week`.
-/
import TimePhrase.Proofs.Calendar.Edge

namespace TimePhrase

namespace DateTime

variable {dt moved : DateTime} {d : Date} {field : CalendarField} {value : Nat}

theorem onDate?_eq_some_iff : dt.onDate? d = some moved ↔ moved.date = d ∧ moved.time = dt.time :=
  Date.at?_eq_some_iff

theorem onDate?_ne_none (h : d.Supported) : dt.onDate? d ≠ none :=
  fun hnone => Date.at?_eq_none_iff.mp hnone h

/-! ### What setting a field gives -/

theorem setMonth?_eq_some (h : dt.setMonth? value = some moved) :
    moved.date.year = dt.date.year ∧ moved.date.month = value ∧
      moved.date.day = min dt.date.day (monthLength dt.date.year value) ∧ moved.time = dt.time := by
  rw [setMonth?, Option.dite_none_right_eq_some] at h
  obtain ⟨_, h⟩ := h
  obtain ⟨hdate, htime⟩ := onDate?_eq_some_iff.mp h
  rw [hdate]
  exact ⟨rfl, rfl, rfl, htime⟩

theorem setDay?_eq_some (h : dt.setDay? value = some moved) :
    moved.date.year = dt.date.year ∧ moved.date.month = dt.date.month ∧ moved.date.day = value ∧
      moved.time = dt.time := by
  obtain ⟨d, hd, h⟩ := Option.bind_eq_some_iff.mp h
  obtain ⟨hdate, htime⟩ := onDate?_eq_some_iff.mp h
  rw [Date.ofFields?, Option.dite_none_right_eq_some] at hd
  obtain ⟨_, hd⟩ := hd
  rw [hdate, ← Option.some.inj hd]
  exact ⟨rfl, rfl, rfl, htime⟩

theorem setDayOfYear?_eq_some (h : dt.setDayOfYear? value = some moved) :
    moved.date.year = dt.date.year ∧ moved.date.dayOfYear = value ∧ moved.time = dt.time := by
  obtain ⟨d, hd, h⟩ := Option.bind_eq_some_iff.mp h
  obtain ⟨hdate, htime⟩ := onDate?_eq_some_iff.mp h
  rw [Date.ofDayOfYear?, Option.dite_none_right_eq_some] at hd
  obtain ⟨_, hd⟩ := hd
  rw [hdate, ← Option.some.inj hd]
  exact ⟨rfl, Date.dayOfYear_ofDayOfYear _ _ _ _, htime⟩

/-- Of the fields only the day of the week, the second and the millisecond
touch the second and what is finer. -/
theorem setField?_keeps_second (hweek : field ≠ .dayOfWeek) (hsecond : field ≠ .second)
    (hmilli : field ≠ .millisecond) (h : dt.setField? field value = some moved) :
    moved.time.second = dt.time.second ∧ moved.time.nano = dt.time.nano := by
  cases field with
  | month =>
    rw [(setMonth?_eq_some h).2.2.2]
    exact ⟨rfl, rfl⟩
  | dayOfMonth =>
    rw [(setDay?_eq_some h).2.2.2]
    exact ⟨rfl, rfl⟩
  | dayOfYear =>
    rw [(setDayOfYear?_eq_some h).2.2]
    exact ⟨rfl, rfl⟩
  | hourOfDay =>
    rw [setField?, setHour?, Option.dite_none_right_eq_some] at h
    obtain ⟨_, h⟩ := h
    cases h
    exact ⟨rfl, rfl⟩
  | minute =>
    rw [setField?, setMinute?, Option.dite_none_right_eq_some] at h
    obtain ⟨_, h⟩ := h
    cases h
    exact ⟨rfl, rfl⟩
  | dayOfWeek => exact absurd rfl hweek
  | second => exact absurd rfl hsecond
  | millisecond => exact absurd rfl hmilli

/-- Setting the second keeps the nanosecond, that of a leap second too. -/
theorem setSecond?_eq_some {second : Nat} (h : dt.setSecond? second = some moved) :
    moved.time.second = second ∧ moved.time.nano = dt.time.nano := by
  rw [setSecond?, Option.dite_none_right_eq_some] at h
  obtain ⟨_, h⟩ := h
  cases h
  exact ⟨rfl, rfl⟩

theorem nano_of_setNano? {nano : Nat} (h : dt.setNano? nano = some moved) :
    moved.time.nano = nano := by
  rw [setNano?, Option.dite_none_right_eq_some] at h
  obtain ⟨_, h⟩ := h
  cases h
  rfl

/-! ### When a field can be set -/

theorem setMonth?_ne_none {month : Nat} (h : 1 ≤ month ∧ month ≤ 12) : dt.setMonth? month ≠ none := by
  rw [setMonth?, dif_pos h]
  exact onDate?_ne_none dt.supported

theorem setDay?_ne_none {day : Nat}
    (h : 1 ≤ day ∧ day ≤ monthLength dt.date.year dt.date.month) : dt.setDay? day ≠ none := by
  rw [setDay?, Date.ofFields?, dif_pos h]
  exact onDate?_ne_none dt.supported

theorem setDayOfYear?_ne_none {day : Nat} (h : 1 ≤ day ∧ day ≤ yearLength dt.date.year) :
    dt.setDayOfYear? day ≠ none := by
  rw [setDayOfYear?, Date.ofDayOfYear?, dif_pos h]
  exact onDate?_ne_none dt.supported

/-- A field other than the day of the week can be set to every value within its
bounds. -/
theorem setField?_ne_none (hweek : field ≠ .dayOfWeek)
    (hvalue : field.minimum ≤ value ∧ value ≤ field.maximum dt) : dt.setField? field value ≠ none := by
  cases field with
  | month => exact setMonth?_ne_none hvalue
  | dayOfWeek => exact absurd rfl hweek
  | dayOfMonth => exact setDay?_ne_none hvalue
  | dayOfYear => exact setDayOfYear?_ne_none hvalue
  | hourOfDay =>
    have h : value < 24 := Nat.lt_succ_of_le hvalue.2
    simp [setField?, setHour?, h]
  | minute =>
    have h : value < 60 := Nat.lt_succ_of_le hvalue.2
    simp [setField?, setMinute?, h]
  | second =>
    have h : value < 60 := Nat.lt_succ_of_le hvalue.2
    simp [setField?, setSecond?, h]
  | millisecond =>
    have hmax : value ≤ 999 := hvalue.2
    have h : value * 1000000 < 2000000000 := by omega
    simp [setField?, setNano?, h]

/-- The smallest value of a field is not above its largest. -/
theorem minimum_le_maximum (field : CalendarField) (dt : DateTime) :
    field.minimum ≤ field.maximum dt := by
  have hday := Nat.le_trans dt.date.day_pos dt.date.day_le
  have hyear := Nat.le_trans dt.date.dayOfYear_pos dt.date.dayOfYear_le
  cases field <;> simp only [CalendarField.minimum, CalendarField.maximum] <;> omega

theorem atEdge_bounds (field : CalendarField) (edge : Edge) (dt : DateTime) :
    field.minimum ≤ field.atEdge edge dt ∧ field.atEdge edge dt ≤ field.maximum dt := by
  have h := minimum_le_maximum field dt
  cases edge with
  | first => exact ⟨Nat.le_refl _, h⟩
  | last => exact ⟨h, Nat.le_refl _⟩

/-- A field other than the day of the week can be set to its edges. -/
theorem setField?_atEdge_ne_none (edge : Edge) (hweek : field ≠ .dayOfWeek) (dt : DateTime) :
    dt.setField? field (field.atEdge edge dt) ≠ none :=
  setField?_ne_none hweek (atEdge_bounds field edge dt)

/-! ### Walks -/

end DateTime

/-- Only a day within a week is a day of the week. -/
theorem CalendarField.ofUnit?_eq_dayOfWeek_iff {level container : TimeUnit} :
    ofUnit? level container = some dayOfWeek ↔ level = .day ∧ container = .week := by
  cases level <;> cases container <;> decide

theorem CalendarField.ofUnit?_eq_second_iff {level container : TimeUnit} :
    ofUnit? level container = some second ↔ level = .second := by
  cases level <;> cases container <;> decide

theorem CalendarField.ofUnit?_eq_millisecond_iff {level container : TimeUnit} :
    ofUnit? level container = some millisecond ↔ level = .millisecond := by
  cases level <;> cases container <;> decide

namespace DateTime

/-- The levels that a walk inside of a week has ahead of it after the day. -/
def belowDay : List TimeUnit :=
  [.hour, .minute, .second, .millisecond]

/-- In a week a walk to the week itself, or to a finer unit, starts with the day. -/
theorem moveToEdge_week_eq_walk (dt : DateTime) (edge : Edge) {unit : TimeUnit}
    (hu : TimeUnit.week.rank ≤ unit.rank) :
    dt.moveToEdge edge unit .week = walkToEdge edge unit .week (.day :: belowDay) true dt := by
  have hyear : TimeUnit.year ≠ unit := by
    rintro rfl
    exact absurd hu (by decide)
  have hmonth : TimeUnit.month ≠ unit := by
    rintro rfl
    exact absurd hu (by decide)
  rw [moveToEdge, TimeUnit.hierarchy, walkToEdge, if_neg (by decide), if_neg (by decide),
    if_neg hyear, walkToEdge, if_neg (by decide), if_neg (by decide), if_neg hmonth,
    walkToEdge, if_pos rfl]
  rfl

/-- Inside of a week the day is set first, and then the units below it. -/
theorem moveToEdge_week (dt : DateTime) (edge : Edge) {unit : TimeUnit}
    (hu : unit.isFinerThan .week = true) :
    dt.moveToEdge edge unit .week =
      (dt.setDayOfWeek? (CalendarField.dayOfWeek.atEdge edge dt)).elim (.error .outOfRange)
        fun moved => if unit = .day then .ok moved
          else walkToEdge edge unit .week belowDay true moved := by
  rw [moveToEdge_week_eq_walk dt edge (Nat.le_of_lt (of_decide_eq_true hu)),
    walkToEdge_inside edge dt (by decide) rfl]
  exact congrArg ((dt.setDayOfWeek? _).elim _) (funext fun _ => if_congr eq_comm rfl rfl)

end DateTime

theorem TimeUnit.isFinerThan_day {unit : TimeUnit} (hu : unit.isFinerThan .week = true)
    (hday : unit ≠ .day) : unit.isFinerThan .day = true := by
  cases unit with
  | year | month | week => cases hu
  | day => exact absurd rfl hday
  | hour | minute | second | millisecond => rfl

theorem Ahead.belowDay {unit : TimeUnit} (hu : unit.isFinerThan .day = true) :
    Ahead unit .week DateTime.belowDay true where
  sorted := by decide
  unit_mem := by
    cases unit with
    | year | month | week | day => cases hu
    | hour | minute | second | millisecond => decide
  container_mem h := by cases h
  finer _ := by decide

namespace DateTime

/-- Only a day within a week may not be set to its edge. -/
theorem setField?_ofUnit?_ne_none (edge : Edge) {level container : TimeUnit}
    (h : level = .day → container ≠ .week)
    (hfield : CalendarField.ofUnit? level container = some field) (dt : DateTime) :
    dt.setField? field (field.atEdge edge dt) ≠ none := by
  refine setField?_atEdge_ne_none edge ?_ dt
  rintro rfl
  obtain ⟨hday, hweek⟩ := CalendarField.ofUnit?_eq_dayOfWeek_iff.mp hfield
  exact h hday hweek

theorem ne_day_of_mem_belowDay {level : TimeUnit} (h : level ∈ belowDay) : level ≠ .day := by
  rintro rfl
  exact absurd h (by decide)

/-- Once the day is set, the units below it can be set. -/
theorem walkToEdge_belowDay_ok (edge : Edge) {unit : TimeUnit}
    (hu : unit.isFinerThan .day = true) (dt : DateTime) :
    ∃ moved, walkToEdge edge unit .week belowDay true dt = .ok moved := by
  have hweek : unit.isFinerThan .week = true ∧ unit ≠ .week := by
    cases unit with
    | year | month | week | day => cases hu
    | hour | minute | second | millisecond => decide
  exact walkToEdge_ok hweek.1 hweek.2 dt (Ahead.belowDay hu) fun level hlevel field =>
    setField?_ofUnit?_ne_none edge fun hday => absurd hday (ne_day_of_mem_belowDay hlevel)

/-- In a week a finer unit can be moved to its edge if the day can be set. -/
theorem moveToEdge_week_ok (edge : Edge) (dt : DateTime) {unit : TimeUnit}
    (hu : unit.isFinerThan .week = true)
    (hday : dt.setDayOfWeek? (CalendarField.dayOfWeek.atEdge edge dt) ≠ none) :
    ∃ moved, dt.moveToEdge edge unit .week = .ok moved := by
  obtain ⟨next, hnext⟩ := Option.ne_none_iff_exists'.mp hday
  rw [moveToEdge_week dt edge hu, hnext, Option.elim_some]
  by_cases hunit : unit = .day
  · exact ⟨next, if_pos hunit⟩
  · rw [if_neg hunit]
    exact walkToEdge_belowDay_ok edge (unit.isFinerThan_day hu hunit) next

/-- In a container other than a week every unit can be moved to its edge. -/
theorem moveToEdge_ok_of_ne_week (edge : Edge) (dt : DateTime) {unit container : TimeUnit}
    (hu : unit.isFinerThan container = true) (hw : unit ≠ .week) (hc : container ≠ .week) :
    ∃ moved, dt.moveToEdge edge unit container = .ok moved := by
  exact walkToEdge_ok hu hw dt (Ahead.hierarchy unit container) fun level _ field =>
    setField?_ofUnit?_ne_none edge fun _ => hc

end DateTime

end TimePhrase
