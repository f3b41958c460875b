/-
# How a request grows

While the arguments are read, a request takes in one thing after another: a
reference that could be read, a format that is one to show, a flag it did not
have, or words (`Request.Adds`). Nothing else happens to it, whatever the order
of the arguments and wherever values stand (`grows_of_readArguments`). So a
property of the empty request that these additions keep is one of every
request, and in particular every format that is asked for can be shown
(`showable_of_readArguments`).

Key definitions: `Request.Adds`, `Request.Grows`.
Key theorems: `Scanner.grows_assign`, `Scanner.grows_settle`,
`Scanner.grows_step`, `Scanner.grows_takeAll`, `grows_of_readArguments`,
`Request.Grows.showable`, `showable_of_readArguments`.
-/
import Mathlib.Logic.Relation
import TimePhrase.Command.Arguments
import TimePhrase.Proofs.Format.Accepted

namespace TimePhrase

/-! ### Additions -/

/-- One thing is added to a request. -/
inductive Request.Adds : Request → Request → Prop
  | reference {q : Request} {value : Text} {reference : DateTime}
      (h : readReference? value = some reference) : Adds q { q with reference := some reference }
  | format {q : Request} {format : Text} (h : Showable format) :
      Adds q { q with format := some format }
  | flag {q : Request} {flag : Flag} (h : flag ∉ q.flags) :
      Adds q { q with flags := q.flags ++ [flag] }
  | words {q : Request} {words : List String} : Adds q { q with words := q.words ++ words }

/-- Some things are added to a request, one after the other. -/
def Request.Grows : Request → Request → Prop :=
  Relation.ReflTransGen Request.Adds

theorem bind_eq_ok_iff {ε α β : Type} {result : Except ε α} {next : α → Except ε β} {b : β} :
    result >>= next = .ok b ↔ ∃ a, result = .ok a ∧ next a = .ok b := by
  cases result <;> simp [bind, Except.bind]

/-! ### Reading the arguments -/

namespace Scanner

variable {s moved : Scanner}

theorem grows_assign {option : ValueOption} {value : Text} (h : s.assign option value = .ok moved) :
    s.request.Grows moved.request := by
  unfold assign at h
  cases option with
  | reference =>
    dsimp only at h
    split at h
    · cases h
    · split at h
      · rename_i reference hread
        cases h
        exact .single (.reference hread)
      · cases h
  | format =>
    dsimp only at h
    split at h
    · cases h
    · split at h
      · rename_i format hcheck
        cases h
        obtain ⟨rfl, hshow⟩ := checkFormat_eq_ok_iff.mp hcheck
        exact .single (.format hshow)
      · cases h

theorem grows_settle (h : s.settle = .ok moved) : s.request.Grows moved.request := by
  unfold settle at h
  split at h
  · cases h
    exact .refl
  · cases h
  · have hgrows := grows_assign h
    exact hgrows

theorem grows_raise {flag : Flag} (h : s.raise flag = .ok moved) :
    s.request.Grows moved.request := by
  obtain ⟨settled, hsettled, h⟩ := bind_eq_ok_iff.mp h
  split at h
  · cases h
  · rename_i hflag
    cases h
    exact (grows_settle hsettled).tail (.flag hflag)

theorem grows_takeOption {option : CommandOption} (h : s.takeOption option = .ok moved) :
    s.request.Grows moved.request := by
  cases option with
  | value option =>
    obtain ⟨settled, hsettled, h⟩ := bind_eq_ok_iff.mp h
    have hgrows := grows_settle hsettled
    cases h
    exact hgrows
  | flag flag => exact grows_raise h
  | notice notice =>
    obtain ⟨settled, -, h⟩ := bind_eq_ok_iff.mp h
    cases h

theorem grows_takeOptionWith {option : CommandOption} {value : Text}
    (h : s.takeOptionWith option value = .ok moved) : s.request.Grows moved.request := by
  cases option with
  | value option =>
    obtain ⟨settled, hsettled, h⟩ := bind_eq_ok_iff.mp h
    exact (grows_settle hsettled).trans (grows_assign h)
  | flag | notice => cases h

theorem grows_takeLong {body : Text} (h : s.takeLong body = .ok moved) :
    s.request.Grows moved.request := by
  unfold takeLong at h
  dsimp only at h
  split at h
  · cases h
  · exact grows_takeOption h
  · exact grows_takeOptionWith h

theorem grows_takeLetters : ∀ {letters : Text} {s : Scanner},
    s.takeLetters letters = .ok moved → s.request.Grows moved.request
  | [], s, h => by
    cases h
    exact .refl
  | letter :: letters, s, h => by
    rw [takeLetters] at h
    split at h
    · cases h
    · obtain ⟨next, hnext, h⟩ := bind_eq_ok_iff.mp h
      exact (grows_takeOption hnext).trans (grows_takeLetters h)

theorem grows_takeWords {words : List String} (h : s.takeWords words = .ok moved) :
    s.request.Grows moved.request := by
  obtain ⟨settled, hsettled, h⟩ := bind_eq_ok_iff.mp h
  cases h
  exact (grows_settle hsettled).tail .words

theorem grows_takePlain {argument : String} (h : s.takePlain argument = .ok moved) :
    s.request.Grows moved.request := by
  unfold takePlain at h
  split at h
  · cases h
    exact .refl
  · exact grows_takeWords h

theorem grows_step {argument : String} (h : s.step argument = .ok moved) :
    s.request.Grows moved.request := by
  unfold step at h
  split at h
  · exact grows_takeLong h
  · exact grows_takeLetters h
  · exact grows_takePlain h

theorem grows_takeAll : ∀ {arguments : List String} {s : Scanner},
    s.takeAll arguments = .ok moved → s.request.Grows moved.request
  | [], s, h => grows_settle h
  | argument :: arguments, s, h => by
    rw [takeAll] at h
    split at h
    · exact grows_takeWords h
    · obtain ⟨next, hnext, h⟩ := bind_eq_ok_iff.mp h
      exact (grows_step hnext).trans (grows_takeAll h)

end Scanner

/-- **A request grows from the empty one.** -/
theorem grows_of_readArguments {arguments : List String} {request : Request}
    (h : readArguments arguments = .ok request) : Request.Grows {} request := by
  obtain ⟨scanner, hscanner, h⟩ := bind_eq_ok_iff.mp h
  dsimp only at h
  split at h
  · cases h
  · cases h
    exact Scanner.grows_takeAll hscanner

/-- If the format of a request can be shown, so can that of what it grows to. -/
theorem Request.Grows.showable {q q' : Request} (h : q.Grows q')
    (hq : ∀ format, q.format = some format → Showable format) :
    ∀ format, q'.format = some format → Showable format := by
  induction h with
  | refl => exact hq
  | tail _ hlast ih =>
    cases hlast with
    | reference | flag | words => exact ih
    | format hshow =>
      rintro format ⟨⟩
      exact hshow

/-- Every format that is asked for can be shown. -/
theorem showable_of_readArguments {arguments : List String} {request : Request} {format : Text}
    (h : readArguments arguments = .ok request) (hformat : request.format = some format) :
    Showable format := by
  have hempty : ∀ format, ({} : Request).format = some format → Showable format := by
    rintro format ⟨⟩
  exact (grows_of_readArguments h).showable hempty format hformat

end TimePhrase
