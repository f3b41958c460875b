/-
# Neither the scan nor the order decides a result

`resolvePlainly` resolves a phrase without buckets: it asks each recognizer in
turn. A run gives the same (`run_eq_resolvePlainly`), as the scan rules out no
recognizer that would have claimed the phrase.

No text is claimed by two recognizers, so what a list of recognizers makes of
a text is told by its members alone (`firstCapture_eq_some_iff`), and the
recognizers may stand in any order (`runOver_perm`).

Key definitions: `firstCapture`, `resolvePlainly`.
Key theorems: `runOver_eq`, `run_eq_resolvePlainly`, `runOver_perm`.
-/
import TimePhrase.Resolve
import TimePhrase.Proofs.Phrase.Scan

namespace TimePhrase

/-! ### Without buckets -/

/-- The capture of the first recognizer that claims a text. -/
def firstCapture (recognizers : List Recognizer) (text : Text) : Option Capture :=
  recognizers.findSome? (·.recognize text)

/-- The result for what was captured. -/
def resultOf (capture : Option Capture) (reference : DateTime) : Except ResolveError DateTime :=
  capture.elim (.error .notRecognized) (·.apply reference)

/-- The capture and the result for a phrase, each recognizer asked in turn. -/
def resolvePlainly (phrase : Text) (reference : DateTime) :
    Option Capture × Except ResolveError DateTime :=
  let capture := firstCapture Recognizer.all (normalize phrase)
  (capture, resultOf capture reference)

/-- A walk over the recognizers finds the first capture, if the buckets leave
to be tried whatever gives one. -/
theorem tryRecognizers_capture {buckets : List Bucket} {text : Text} :
    ∀ {recognizers : List Recognizer},
      (∀ r ∈ recognizers, ∀ c, r.recognize text = some c → admits buckets r = true) →
      (tryRecognizers buckets text recognizers).2 = firstCapture recognizers text
  | [], _ => rfl
  | r :: others, h => by
    have ih : (tryRecognizers buckets text others).2 = firstCapture others text :=
      tryRecognizers_capture fun s hs => h s (List.mem_cons_of_mem r hs)
    rw [tryRecognizers, firstCapture, List.findSome?_cons]
    cases hr : r.recognize text with
    | some c => rw [if_pos (h r List.mem_cons_self c hr)]
    | none =>
      by_cases ha : admits buckets r = true
      · rw [if_pos ha]
        exact ih
      · rw [if_neg ha]
        exact ih

theorem runOver_result (recognizers : List Recognizer) (phrase : Text) (reference : DateTime) :
    (runOver recognizers phrase reference).result =
      resultOf (runOver recognizers phrase reference).capture reference := by
  simp only [runOver]
  cases (tryRecognizers (scan (normalize phrase)) (normalize phrase) recognizers).2 <;> rfl

/-- What a run captures, and its result, without the buckets in it. -/
theorem runOver_eq (recognizers : List Recognizer) (phrase : Text) (reference : DateTime) :
    (runOver recognizers phrase reference).capture = firstCapture recognizers (normalize phrase) ∧
      (runOver recognizers phrase reference).result =
        resultOf (firstCapture recognizers (normalize phrase)) reference := by
  have hcapture : (runOver recognizers phrase reference).capture =
      firstCapture recognizers (normalize phrase) :=
    tryRecognizers_capture fun _ _ _ h => admits_of_recognize h (asciiUpper_normalize phrase)
  refine ⟨hcapture, ?_⟩
  rw [← hcapture]
  exact runOver_result recognizers phrase reference

/-- **The scan only saves work.** It leaves every recognizer to be tried that
would claim the phrase, so a run captures and gives what it would without it. -/
theorem run_eq_resolvePlainly :
    (∀ phrase r c, Recognizer.recognize r (normalize phrase) = some c →
      admits (scan (normalize phrase)) r = true) ∧
    ∀ phrase reference,
      ((run phrase reference).capture, (run phrase reference).result) =
        resolvePlainly phrase reference := by
  refine ⟨fun phrase r c h => admits_of_recognize h (asciiUpper_normalize phrase), ?_⟩
  intro phrase reference
  obtain ⟨hcapture, hresult⟩ := runOver_eq Recognizer.all phrase reference
  exact Prod.ext hcapture hresult

/-- The long s in front becomes the S of a weekday, and the scan finds it. -/
theorem admits_long_s_sunday :
    admits (scan (normalize "\u017funday".toList)) .dayOfWeek = true ∧
      ((run "\u017funday".toList .epoch).capture, (run "\u017funday".toList .epoch).result) =
        resolvePlainly "\u017funday".toList .epoch :=
  ⟨run_eq_resolvePlainly.1 _ _ (.dayOfWeek none .sun) (by decide), run_eq_resolvePlainly.2 _ _⟩

/-! ### In any order -/

theorem firstCapture_eq_some_iff {recognizers : List Recognizer} {text : Text} {c : Capture} :
    firstCapture recognizers text = some c ↔ ∃ r ∈ recognizers, r.recognize text = some c := by
  constructor
  · exact List.exists_of_findSome?_eq_some
  · rintro ⟨r, hr, hc⟩
    obtain ⟨d, hd⟩ : ∃ d, firstCapture recognizers text = some d := by
      rw [← Option.isSome_iff_exists, firstCapture, List.findSome?_isSome_iff]
      exact ⟨r, hr, by rw [hc]; rfl⟩
    obtain ⟨s, _, hs⟩ := List.exists_of_findSome?_eq_some hd
    have e : r = s := eq_of_recognize_eq_some hc hs
    rw [hd, ← hs, ← e, hc]

theorem firstCapture_perm {first second : List Recognizer} (h : first.Perm second) (text : Text) :
    firstCapture first text = firstCapture second text := by
  apply Option.ext
  intro c
  rw [firstCapture_eq_some_iff, firstCapture_eq_some_iff]
  simp only [h.mem_iff]

/-- **The order of the recognizers decides nothing.** No text is claimed by
two of them, and a run over them in any order captures and gives the same. -/
theorem runOver_perm :
    (∀ text r s c, Recognizer.recognize r text = some c → r ≠ s →
      Recognizer.recognize s text = none) ∧
    ∀ recognizers : List Recognizer, recognizers.Perm Recognizer.all → ∀ phrase reference,
      (runOver recognizers phrase reference).capture = (run phrase reference).capture ∧
        (runOver recognizers phrase reference).result = (run phrase reference).result := by
  refine ⟨fun text r s c hr hne => ?_, fun recognizers hperm phrase reference => ?_⟩
  · rw [Option.eq_none_iff_forall_ne_some]
    intro d hs
    exact hne (eq_of_recognize_eq_some hr hs)
  obtain ⟨hcapture, hresult⟩ := runOver_eq recognizers phrase reference
  obtain ⟨hcapture', hresult'⟩ := runOver_eq Recognizer.all phrase reference
  have e := firstCapture_perm hperm (normalize phrase)
  refine ⟨?_, ?_⟩
  · rw [hcapture, e, run, hcapture']
  · rw [hresult, e, run, hresult']

/-- `LAST` is a qualifier, a direction and an edge; backwards the edges are
tried first. -/
theorem runOver_reverse_last_month :
    Recognizer.firstLastUnit.recognize "LAST MONTH".toList = none ∧
      (runOver Recognizer.all.reverse "last month".toList .epoch).capture =
        (run "last month".toList .epoch).capture ∧
      (runOver Recognizer.all.reverse "last month".toList .epoch).result =
        (run "last month".toList .epoch).result :=
  ⟨runOver_perm.1 _ .changeUnit _ (.changeUnit .last .month) (by decide) (by decide),
    runOver_perm.2 _ (List.reverse_perm Recognizer.all) _ _⟩

end TimePhrase
