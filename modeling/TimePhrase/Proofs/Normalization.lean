/-
# Normalizing is a projection

A normalized phrase is trimmed and in upper case, and normalizing it again
changes nothing (`normalize_normalize`). Normalizing takes away blanks at the
ends and the case of ASCII letters, and phrases that differ in these only
become the same (`normalize_blanks_append`, `normalize_asciiUpper`).

A run works on the normalized phrase alone, so it cannot tell such phrases
apart, nor a phrase from its normalized form (`run_normalize`).

Key theorems: `normalize_normalize`, `normalize_blanks_append`,
`normalize_asciiUpper`, `run_normalize`.
-/
import TimePhrase.Resolve
import TimePhrase.Proofs.Text.Trimmed

namespace TimePhrase

/-! ### Normalized phrases -/

theorem trimmed_normalize (phrase : Text) : Trimmed (normalize phrase) :=
  (trimmed_trim phrase).upper

theorem isLower_of_mem_normalize {phrase : Text} {c : Char} (h : c ∈ normalize phrase) :
    c.isLower = false := by
  obtain ⟨a, _, hc⟩ := List.mem_flatMap.mp h
  rw [← toUpper_of_mem_upperChar hc, Char.isLower_toUpper_eq_false]

theorem normalize_normalize (phrase : Text) : normalize (normalize phrase) = normalize phrase :=
  calc normalize (normalize phrase) = upper (trim (normalize phrase)) := rfl
    _ = upper (normalize phrase) := by rw [(trimmed_normalize phrase).trim_eq]
    _ = upper (upper (trim phrase)) := rfl
    _ = upper (trim phrase) := upper_upper _

/-! ### Phrases that are normalized alike -/

theorem normalize_blanks_append {front back : Text} (hfront : AllBlank front)
    (hback : AllBlank back) (phrase : Text) :
    normalize (front ++ (phrase ++ back)) = normalize phrase := by
  rw [normalize, trim_blanks_append hfront hback, normalize]

theorem normalize_asciiUpper (phrase : Text) : normalize (asciiUpper phrase) = normalize phrase := by
  rw [normalize, trim_asciiUpper, upper_asciiUpper, normalize]

/-! ### Runs -/

/-- A run looks at the normalized phrase alone. -/
theorem run_congr {phrase other : Text} (h : normalize other = normalize phrase)
    (reference : DateTime) : run other reference = run phrase reference := by
  rw [run, run, runOver, runOver, h]

/-- **Normalizing is a projection, and a run does not see through it.** A
normalized phrase has no blank at either end and no small letter of ASCII, and
is normalized already. Phrases that differ by blanks at the ends, or in the case
of ASCII letters, are normalized alike. A run on the normalized phrase leaves
the same record, down to the result. -/
theorem run_normalize :
    (∀ phrase, normalize (normalize phrase) = normalize phrase ∧ Trimmed (normalize phrase) ∧
      ∀ c ∈ normalize phrase, c.isLower = false) ∧
    (∀ front phrase back, AllBlank front → AllBlank back →
      normalize (front ++ (phrase ++ back)) = normalize phrase) ∧
    (∀ phrase other, asciiUpper other = asciiUpper phrase → normalize other = normalize phrase) ∧
    ∀ phrase reference, run (normalize phrase) reference = run phrase reference := by
  refine ⟨fun phrase => ⟨normalize_normalize phrase, trimmed_normalize phrase,
    fun c hc => isLower_of_mem_normalize hc⟩, fun front phrase back hfront hback =>
    normalize_blanks_append hfront hback phrase, fun phrase other h => ?_, fun phrase reference =>
    run_congr (normalize_normalize phrase) reference⟩
  rw [← normalize_asciiUpper other, h, normalize_asciiUpper]

/-- A ligature that becomes two letters, between blanks of two kinds. -/
theorem run_normalize_ligature :
    normalize ("\u3000".toList ++ ("\ufb01rst day of year".toList ++ "\t".toList)) =
        normalize "\ufb01rst day of year".toList ∧
      normalize "\ufb01RST Day of yeaR".toList = normalize "\ufb01rst day of year".toList ∧
      run (normalize "\ufb01rst day of year".toList) .epoch =
        run "\ufb01rst day of year".toList .epoch := by
  obtain ⟨-, hblanks, hcase, hrun⟩ := run_normalize
  exact ⟨hblanks _ _ _ (List.forall_mem_singleton.mpr (by decide))
    (List.forall_mem_singleton.mpr (by decide)), hcase _ _ (by decide), hrun _ _⟩

example : normalize " \ufb01rst day of year\t".toList = "FIRST DAY OF YEAR".toList := by decide

end TimePhrase
