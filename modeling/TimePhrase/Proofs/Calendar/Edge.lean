/-
# The walk to an edge reaches its unit

`DateTime.moveToEdge` reports a unit as unreachable when its walk meets the
unit, or the end of the levels, before it has set it. For a unit that is finer
than the container and not a week this does not happen
(`DateTime.moveToEdge_ok_or_outOfRange`): a field may fall outside of the
supported years, and nothing else goes wrong.

The levels ahead of the walk are in order of rank and hold the unit. They
hold the container as long as the walk has not entered it, and lie within it
from then on (`Ahead`). So at each level a walk does one of four things
(`DateTime.walkToEdge_cons`), and it ends with its unit, set on a date-time
that has what the coarser units left as it was (`DateTime.walkToEdge_last`).

Key definition: `Ahead`.
Key theorems: `Ahead.next`, `DateTime.walkToEdge_outside`,
`DateTime.walkToEdge_inside`, `DateTime.walkToEdge_cons`,
`DateTime.walkToEdge_ok_or_outOfRange`, `DateTime.walkToEdge_ok`,
`DateTime.walkToEdge_last`, `DateTime.moveToEdge_ok_or_outOfRange`.
-/
import Mathlib.Data.List.Basic
import TimePhrase.Calendar.Field

namespace TimePhrase

variable {unit container level : TimeUnit} {levels : List TimeUnit} {inside : Bool}

/-- A level below the container is a field, unless it is the week. -/
theorem CalendarField.exists_ofUnit? (hrank : container.rank < level.rank) (hw : level ≠ .week) :
    ∃ field, ofUnit? level container = some field := by
  cases level with
  | year => exact absurd hrank (Nat.not_lt_zero _)
  | week => exact absurd rfl hw
  | day => cases container <;> exact ⟨_, rfl⟩
  | month | hour | minute | second | millisecond => exact ⟨_, rfl⟩

/-- The levels ahead of a walk to the unit, inside of the container or not
there yet. -/
structure Ahead (unit container : TimeUnit) (levels : List TimeUnit) (inside : Bool) : Prop where
  sorted : levels.Pairwise fun a b => a.rank < b.rank
  unit_mem : unit ∈ levels
  container_mem : inside = false → container ∈ levels
  finer : inside = true → ∀ level ∈ levels, container.rank < level.rank

namespace Ahead

theorem hierarchy (unit container : TimeUnit) : Ahead unit container TimeUnit.hierarchy false where
  sorted := by decide
  unit_mem := by cases unit <;> decide
  container_mem _ := by cases container <;> decide
  finer h := by cases h

/-- A level that is not the unit is left behind. -/
theorem next (h : Ahead unit container (level :: levels) inside) (hne : level ≠ unit) :
    Ahead unit container levels (inside || level = container) := by
  obtain ⟨hlevel, hsorted⟩ := List.pairwise_cons.mp h.sorted
  have hunit : unit ∈ levels := List.mem_of_ne_of_mem hne.symm h.unit_mem
  refine ⟨hsorted, hunit, fun hin => ?_, fun hin => ?_⟩
  · obtain ⟨hin, hc⟩ : inside = false ∧ level ≠ container := by simpa using hin
    exact List.mem_of_ne_of_mem hc.symm (h.container_mem hin)
  · intro other hother
    by_cases hc : level = container
    · rw [← hc]
      exact hlevel other hother
    · have hin : inside = true := by simpa [hc] using hin
      exact h.finer hin other (List.mem_cons_of_mem level hother)

/-- A level that is not the unit is coarser. -/
theorem rank_lt (h : Ahead unit container (level :: levels) inside) (hne : level ≠ unit) :
    level.rank < unit.rank :=
  (List.pairwise_cons.mp h.sorted).1 unit (List.mem_of_ne_of_mem hne.symm h.unit_mem)

/-- Outside of the container the next level is not finer than it. -/
theorem not_finer (h : Ahead unit container (level :: levels) false) :
    level.isFinerThan container = false := by
  rw [TimeUnit.isFinerThan, decide_eq_false_iff_not, Nat.not_lt]
  rcases List.mem_cons.mp (h.container_mem rfl) with rfl | hc
  · exact Nat.le_refl _
  · exact Nat.le_of_lt ((List.pairwise_cons.mp h.sorted).1 container hc)

/-- Outside of the container the unit is not the next level. -/
theorem ne_unit (h : Ahead unit container (level :: levels) false)
    (hu : unit.isFinerThan container = true) : level ≠ unit := by
  rintro rfl
  rw [h.not_finer] at hu
  cases hu

/-- Inside of the container every level but the week is a field. -/
theorem exists_field (h : Ahead unit container (level :: levels) true) (hw : level ≠ .week) :
    ∃ field, CalendarField.ofUnit? level container = some field :=
  CalendarField.exists_ofUnit? (h.finer rfl level List.mem_cons_self) hw

end Ahead

namespace DateTime

/-! ### Walks -/

/-- Outside of the container a level that is no week is passed over. -/
theorem walkToEdge_outside (edge : Edge) (dt : DateTime) (hweek : level ≠ .week)
    (hne : level ≠ unit) :
    walkToEdge edge unit container (level :: levels) false dt =
      walkToEdge edge unit container levels (level = container) dt := by
  rw [walkToEdge, if_neg hweek, if_neg Bool.false_ne_true, if_neg hne]

/-- Inside of the container a level that is a field is set, and the walk ends
with its unit. -/
theorem walkToEdge_inside (edge : Edge) (dt : DateTime) {field : CalendarField}
    (hweek : level ≠ .week) (hfield : CalendarField.ofUnit? level container = some field) :
    walkToEdge edge unit container (level :: levels) true dt =
      (dt.setField? field (field.atEdge edge dt)).elim (.error .outOfRange) fun next =>
        if level = unit then .ok next else walkToEdge edge unit container levels true next := by
  rw [walkToEdge, if_neg hweek, if_pos rfl, hfield]
  dsimp only
  cases dt.setField? field (field.atEdge edge dt) <;> rfl

/-- What a walk does at a level: it passes over it, fails to set it, ends with
it or goes on from it. -/
theorem walkToEdge_cons (edge : Edge) (dt : DateTime)
    (h : Ahead unit container (level :: levels) inside)
    (hu : unit.isFinerThan container = true) (hw : unit ≠ .week) :
    (level ≠ unit ∧ walkToEdge edge unit container (level :: levels) inside dt =
      walkToEdge edge unit container levels (inside || level = container) dt) ∨
    ∃ field, inside = true ∧ CalendarField.ofUnit? level container = some field ∧
      ((dt.setField? field (field.atEdge edge dt) = none ∧
        walkToEdge edge unit container (level :: levels) inside dt = .error .outOfRange) ∨
      ∃ moved, dt.setField? field (field.atEdge edge dt) = some moved ∧
        ((level = unit ∧
          walkToEdge edge unit container (level :: levels) inside dt = .ok moved) ∨
        (level ≠ unit ∧ walkToEdge edge unit container (level :: levels) inside dt =
          walkToEdge edge unit container levels (inside || level = container) moved))) := by
  by_cases hweek : level = .week
  · rw [walkToEdge, if_pos hweek]
    exact .inl ⟨hweek.trans_ne hw.symm, rfl⟩
  -- the container is entered once, and only then are fields set
  cases inside with
  | false =>
    have hne : level ≠ unit := h.ne_unit hu
    rw [walkToEdge_outside edge dt hweek hne]
    exact .inl ⟨hne, rfl⟩
  | true =>
    obtain ⟨field, hfield⟩ := h.exists_field hweek
    refine .inr ⟨field, rfl, hfield, ?_⟩
    rw [walkToEdge_inside edge dt hweek hfield]
    cases dt.setField? field (field.atEdge edge dt) with
    | none => exact .inl ⟨rfl, rfl⟩
    | some moved =>
      rw [Option.elim_some]
      refine .inr ⟨moved, rfl, ?_⟩
      by_cases hne : level = unit
      · exact .inl ⟨hne, if_pos hne⟩
      · exact .inr ⟨hne, if_neg hne⟩

/-- The walk sets its unit or leaves the supported years. -/
theorem walkToEdge_ok_or_outOfRange (edge : Edge) (hu : unit.isFinerThan container = true)
    (hw : unit ≠ .week) : ∀ {levels : List TimeUnit} {inside : Bool} (dt : DateTime),
      Ahead unit container levels inside →
      (∃ moved, walkToEdge edge unit container levels inside dt = .ok moved) ∨
        walkToEdge edge unit container levels inside dt = .error .outOfRange
  | [], _, _, h => absurd h.unit_mem List.not_mem_nil
  | level :: levels, inside, dt, h => by
    rcases walkToEdge_cons edge dt h hu hw with
      ⟨hne, hwalk⟩ | ⟨_, _, _, ⟨_, hwalk⟩ | ⟨moved, _, ⟨_, hwalk⟩ | ⟨hne, hwalk⟩⟩⟩
    · rw [hwalk]
      exact walkToEdge_ok_or_outOfRange edge hu hw dt (h.next hne)
    · exact .inr hwalk
    · exact .inl ⟨moved, hwalk⟩
    · rw [hwalk]
      exact walkToEdge_ok_or_outOfRange edge hu hw moved (h.next hne)

/-- A walk whose fields can all be set does not fail. -/
theorem walkToEdge_ok {edge : Edge} (hu : unit.isFinerThan container = true) (hw : unit ≠ .week) :
    ∀ {levels : List TimeUnit} {inside : Bool} (dt : DateTime),
      Ahead unit container levels inside →
      (∀ level ∈ levels, ∀ field, CalendarField.ofUnit? level container = some field →
        ∀ dt : DateTime, dt.setField? field (field.atEdge edge dt) ≠ none) →
      ∃ moved, walkToEdge edge unit container levels inside dt = .ok moved
  | [], _, _, h, _ => absurd h.unit_mem List.not_mem_nil
  | level :: levels, inside, dt, h, hset => by
    have hothers := fun other hother => hset other (List.mem_cons_of_mem level hother)
    rcases walkToEdge_cons edge dt h hu hw with
      ⟨hne, hwalk⟩ | ⟨field, _, hfield, ⟨hnone, _⟩ | ⟨moved, _, ⟨_, hwalk⟩ | ⟨hne, hwalk⟩⟩⟩
    · rw [hwalk]
      exact walkToEdge_ok hu hw dt (h.next hne) hothers
    · exact absurd hnone (hset level List.mem_cons_self field hfield dt)
    · exact ⟨moved, hwalk⟩
    · rw [hwalk]
      exact walkToEdge_ok hu hw moved (h.next hne) hothers

/-- **A walk sets its unit last,** and it does so on a date-time with every
property of the first one that is kept where coarser units are set. -/
theorem walkToEdge_last {edge : Edge} {P : DateTime → Prop} {moved : DateTime}
    (hu : unit.isFinerThan container = true) (hw : unit ≠ .week) :
    ∀ {levels : List TimeUnit} {inside : Bool} {dt : DateTime},
      Ahead unit container levels inside →
      (∀ level ∈ levels, level.rank < unit.rank → ∀ field,
        CalendarField.ofUnit? level container = some field → ∀ dt next : DateTime, P dt →
          dt.setField? field (field.atEdge edge dt) = some next → P next) →
      P dt → walkToEdge edge unit container levels inside dt = .ok moved →
      ∃ last field, P last ∧ CalendarField.ofUnit? unit container = some field ∧
        last.setField? field (field.atEdge edge last) = some moved
  | [], _, _, h, _, _, _ => absurd h.unit_mem List.not_mem_nil
  | level :: levels, inside, dt, h, hkeep, hP, hmoved => by
    have hothers := fun other hother => hkeep other (List.mem_cons_of_mem level hother)
    rcases walkToEdge_cons edge dt h hu hw with
      ⟨hne, hwalk⟩ | ⟨field, _, hfield, ⟨_, hwalk⟩ | ⟨next, hnext, ⟨hunit, hwalk⟩ | ⟨hne, hwalk⟩⟩⟩
    · rw [hwalk] at hmoved
      exact walkToEdge_last hu hw (h.next hne) hothers hP hmoved
    · rw [hwalk] at hmoved
      cases hmoved
    · rw [hwalk] at hmoved
      cases hmoved
      rw [hunit] at hfield
      exact ⟨dt, field, hP, hfield, hnext⟩
    · rw [hwalk] at hmoved
      have hlevel := hkeep level List.mem_cons_self (h.rank_lt hne) field hfield dt next hP hnext
      exact walkToEdge_last hu hw (h.next hne) hothers hlevel hmoved

/-- A unit within the container is moved to its edge, but for the supported
years. -/
theorem moveToEdge_ok_or_outOfRange (dt : DateTime) (edge : Edge)
    (hu : unit.isFinerThan container = true) (hw : unit ≠ .week) :
    (∃ moved, dt.moveToEdge edge unit container = .ok moved) ∨
      dt.moveToEdge edge unit container = .error .outOfRange :=
  walkToEdge_ok_or_outOfRange edge hu hw dt (Ahead.hierarchy unit container)

end DateTime

end TimePhrase
