/-
# A format that is accepted shows every date-time

A format is tried on one date-time before it is accepted. That is enough: an
item has a text for every date-time or for none, and has none only where it
speaks of a zone (`Item.isSome_render?_iff`). So a format is accepted if its
directives are known and none asks for a zone (`checkFormat_eq_ok_iff`), and
then it shows all date-times, those with leap seconds and in years of any
length too (`Showable.exists_render`).

Key definition: `Showable`.
Key theorems: `Item.isSome_render?_iff`, `DateTime.isSome_render?_iff`,
`Showable.exists_render`, `checkFormat_eq_ok_iff`.
-/
import TimePhrase.Format.Directive

namespace TimePhrase

/-- A date-time has a text for every item but a zone. -/
theorem Item.isSome_render?_iff {item : Item} {dt : DateTime} :
    (item.render? dt).isSome = true ↔ item ≠ .zone := by
  cases item <;> simp [render?]

theorem isSome_mapM_iff {α β : Type} {f : α → Option β} :
    ∀ {l : List α}, (l.mapM f).isSome = true ↔ ∀ a ∈ l, (f a).isSome = true
  | [] => by simp
  | a :: l => by
    have ih : (l.mapM f).isSome = true ↔ ∀ b ∈ l, (f b).isSome = true := isSome_mapM_iff
    rw [List.forall_mem_cons, ← ih, List.mapM_cons]
    cases f a with
    | none => simp
    | some b => cases l.mapM f <;> simp

/-- The directives of a format are known, and none asks for a zone. -/
def Showable (format : Text) : Prop :=
  ∃ items, formatItems? format = some items ∧ Item.zone ∉ items

/-- A format shows one date-time if it shows any. -/
theorem DateTime.isSome_render?_iff (dt : DateTime) (format : Text) :
    (dt.render? format).isSome = true ↔ Showable format := by
  have hitems : ∀ items : List Item,
      (items.mapM (Item.render? dt)).isSome = true ↔ Item.zone ∉ items := by
    intro items
    simp only [isSome_mapM_iff, Item.isSome_render?_iff]
    exact ⟨fun h hzone => h .zone hzone rfl, fun h item hitem hzone => h (hzone ▸ hitem)⟩
  rw [Showable]
  cases hformat : formatItems? format with
  | none => simp [render?, hformat]
  | some items =>
    have hrender : dt.render? format = (items.mapM (Item.render? dt)).map List.flatten := by
      rw [render?, hformat, Option.map_eq_bind]
      rfl
    rw [hrender, Option.isSome_map, hitems]
    simp

/-- **A format to show shows every date-time.** -/
theorem Showable.exists_render {format : Text} (h : Showable format) (dt : DateTime) :
    ∃ text, dt.render? format = some text :=
  Option.isSome_iff_exists.mp ((dt.isSome_render?_iff format).mpr h)

/-- What is accepted is the format itself, if it is one to show. -/
theorem checkFormat_eq_ok_iff {format accepted : Text} :
    checkFormat format = .ok accepted ↔ accepted = format ∧ Showable format := by
  have hepoch := DateTime.epoch.isSome_render?_iff format
  rw [checkFormat]
  by_cases hshow : Showable format
  · obtain ⟨items, hitems, -⟩ := id hshow
    have hsome := Option.isSome_iff_ne_none.mp (hepoch.mpr hshow)
    rw [if_neg (by simp [hitems]), if_neg (by simpa using hsome)]
    simp [hshow, eq_comm]
  · have hnone : (DateTime.epoch.render? format).isNone = true := by
      rw [← hepoch] at hshow
      simpa using hshow
    rw [if_pos hnone]
    split <;> simp [hshow]

end TimePhrase
