/-
# The record of a run

A run goes through the recognizers in order and notes what becomes of each.
`Walk` says what such notes can be: a recognizer is skipped that the buckets
rule out, another one is asked, and the first capture ends the walk. The notes
of a run are of this kind (`walk_tryRecognizers`), and they tell all about it
(`run_faithful`): how far it came, why each recognizer gave no capture, and
where the capture and the result come from.

The reference is looked at only when a capture is applied, so all of the
record but the result is the same for every reference.

Key definitions: `Walk`, `Attempt.IsTrue`, `Run.Faithful`.
Key theorems: `walk_tryRecognizers`, `Walk.isTrue`, `Walk.capture_eq_some`,
`Walk.capture_eq_none`, `Walk.matched_last`, `run_faithful`.
-/
import TimePhrase.Proofs.Errors

namespace TimePhrase

/-! ### Walks over the recognizers -/

/-- The attempts that a walk over recognizers notes, and the capture it ends
with. -/
inductive Walk (buckets : List Bucket) (text : Text) :
    List Recognizer → List Attempt → Option Capture → Prop
  | done : Walk buckets text [] [] none
  | skipped {r : Recognizer} {others : List Recognizer} {attempts : List Attempt}
      {capture : Option Capture} (ha : admits buckets r = false)
      (h : Walk buckets text others attempts capture) :
      Walk buckets text (r :: others) (⟨r, .skipped⟩ :: attempts) capture
  | noMatch {r : Recognizer} {others : List Recognizer} {attempts : List Attempt}
      {capture : Option Capture} (ha : admits buckets r = true) (hr : r.recognize text = none)
      (h : Walk buckets text others attempts capture) :
      Walk buckets text (r :: others) (⟨r, .noMatch⟩ :: attempts) capture
  | matched {r : Recognizer} {others : List Recognizer} {c : Capture}
      (ha : admits buckets r = true) (hr : r.recognize text = some c) :
      Walk buckets text (r :: others) [⟨r, .matched⟩] (some c)

theorem walk_tryRecognizers (buckets : List Bucket) (text : Text) :
    ∀ recognizers, Walk buckets text recognizers
      (tryRecognizers buckets text recognizers).1 (tryRecognizers buckets text recognizers).2
  | [] => .done
  | r :: others => by
    have ih := walk_tryRecognizers buckets text others
    rw [tryRecognizers]
    cases ha : admits buckets r with
    | false => exact .skipped ha ih
    | true =>
      rw [if_pos rfl]
      cases hr : r.recognize text with
      | none => exact .noMatch ha hr ih
      | some c => exact .matched ha hr

/-! ### What the notes tell -/

/-- An attempt notes what became of its recognizer: it was ruled out by the
buckets, or asked and gave no capture, or asked and gave one. -/
def Attempt.IsTrue (buckets : List Bucket) (text : Text) (a : Attempt) : Prop :=
  (a.outcome = .skipped ↔ admits buckets a.recognizer = false) ∧
  (a.outcome = .noMatch ↔
    admits buckets a.recognizer = true ∧ a.recognizer.recognize text = none) ∧
  (a.outcome = .matched ↔
    admits buckets a.recognizer = true ∧ (a.recognizer.recognize text).isSome = true)

namespace Walk

variable {buckets : List Bucket} {text : Text} {recognizers : List Recognizer}
  {attempts : List Attempt} {capture : Option Capture} {c : Capture}

theorem isTrue (h : Walk buckets text recognizers attempts capture) :
    ∀ a ∈ attempts, a.IsTrue buckets text := by
  induction h with
  | done => exact List.forall_mem_nil _
  | skipped ha _ ih => exact List.forall_mem_cons.mpr ⟨by simp [Attempt.IsTrue, ha], ih⟩
  | noMatch ha hr _ ih => exact List.forall_mem_cons.mpr ⟨by simp [Attempt.IsTrue, ha, hr], ih⟩
  | matched ha hr => exact List.forall_mem_singleton.mpr (by simp [Attempt.IsTrue, ha, hr])

/-- The recognizers are tried in order. -/
theorem isPrefix (h : Walk buckets text recognizers attempts capture) :
    attempts.map (·.recognizer) <+: recognizers := by
  induction h with
  | done => exact List.prefix_rfl
  | skipped _ _ ih | noMatch _ _ _ ih => exact List.prefix_cons_inj _ |>.mpr ih
  | matched => exact List.prefix_append [_] _

/-- A walk with a capture ends with the recognizer that gave it, and with no
other match on the way. -/
theorem capture_eq_some (h : Walk buckets text recognizers attempts (some c)) :
    ∃ (tried : List Attempt) (r : Recognizer), attempts = tried ++ [⟨r, .matched⟩] ∧
      (∀ a ∈ tried, a.outcome ≠ .matched) ∧ r.recognize text = some c := by
  generalize hcapture : some c = capture at h
  induction h with
  | done => cases hcapture
  | @skipped r _ _ _ _ _ ih =>
    obtain ⟨tried, last, rfl, htried, hlast⟩ := ih hcapture
    refine ⟨⟨r, .skipped⟩ :: tried, last, rfl, List.forall_mem_cons.mpr ⟨?_, htried⟩, hlast⟩
    exact Outcome.noConfusion
  | @noMatch r _ _ _ _ _ _ ih =>
    obtain ⟨tried, last, rfl, htried, hlast⟩ := ih hcapture
    refine ⟨⟨r, .noMatch⟩ :: tried, last, rfl, List.forall_mem_cons.mpr ⟨?_, htried⟩, hlast⟩
    exact Outcome.noConfusion
  | @matched r _ _ _ hr =>
    cases hcapture
    exact ⟨[], r, rfl, List.forall_mem_nil _, hr⟩

/-- A walk without a capture has tried all recognizers, none with a match. -/
theorem capture_eq_none (h : Walk buckets text recognizers attempts none) :
    attempts.map (·.recognizer) = recognizers ∧ ∀ a ∈ attempts, a.outcome ≠ .matched := by
  generalize hcapture : none = capture at h
  induction h with
  | done => exact ⟨rfl, List.forall_mem_nil _⟩
  | skipped _ _ ih | noMatch _ _ _ ih =>
    obtain ⟨hmap, hothers⟩ := ih hcapture
    exact ⟨congrArg (_ :: ·) hmap, List.forall_mem_cons.mpr ⟨Outcome.noConfusion, hothers⟩⟩
  | matched => cases hcapture

/-- A match stands at the end, after no other. -/
theorem matched_last (h : Walk buckets text recognizers attempts capture) {tried after : List Attempt}
    {a : Attempt} (hattempts : attempts = tried ++ a :: after) (ha : a.outcome = .matched) :
    after = [] ∧ (∀ b ∈ tried, b.outcome ≠ .matched) ∧
      ∃ c, capture = some c ∧ a.recognizer.recognize text = some c := by
  cases capture with
  | none =>
    have hmem : a ∈ attempts := hattempts ▸ List.mem_append_right tried List.mem_cons_self
    exact absurd ha (h.capture_eq_none.2 a hmem)
  | some c =>
    obtain ⟨front, r, hfront, hnone, hr⟩ := h.capture_eq_some
    rw [hfront] at hattempts
    rcases List.eq_nil_or_concat after with rfl | ⟨more, last, rfl⟩
    · obtain ⟨rfl, hlast⟩ := List.append_inj' hattempts rfl
      cases hlast
      exact ⟨rfl, hnone, c, rfl, hr⟩
    · rw [List.concat_eq_append, ← List.cons_append, ← List.append_assoc] at hattempts
      obtain ⟨rfl, -⟩ := List.append_inj' hattempts rfl
      exact absurd ha (hnone a (List.mem_append_right tried List.mem_cons_self))

end Walk

/-! ### Runs -/

/-- A record tells how its result was found: which recognizers were tried, in
their order, what became of each, and that the only match, the last attempt,
gave the capture and the result. -/
structure Run.Faithful (record : Run) (reference : DateTime) : Prop where
  isPrefix : record.attempts.map (·.recognizer) <+: Recognizer.all
  isTrue : ∀ a ∈ record.attempts, a.IsTrue record.buckets record.normalized
  matched : ∀ tried a after, record.attempts = tried ++ a :: after → a.outcome = .matched →
    after = [] ∧ (∀ b ∈ tried, b.outcome ≠ .matched) ∧
      ∃ c, record.capture = some c ∧ a.recognizer = c.recognizer ∧
        a.recognizer.recognize record.normalized = some c ∧ record.result = c.apply reference
  unmatched : (∀ a ∈ record.attempts, a.outcome ≠ .matched) →
    record.attempts.map (·.recognizer) = Recognizer.all ∧ record.capture = none ∧
      record.result = .error .notRecognized

/-- The attempts and the capture of a run are those of a walk over all
recognizers. -/
theorem walk_run (phrase : Text) (reference : DateTime) :
    Walk (run phrase reference).buckets (run phrase reference).normalized Recognizer.all
      (run phrase reference).attempts (run phrase reference).capture :=
  walk_tryRecognizers (scan (normalize phrase)) (normalize phrase) Recognizer.all

theorem run_result (phrase : Text) (reference : DateTime) :
    (run phrase reference).result = resultOf (run phrase reference).capture reference :=
  runOver_result Recognizer.all phrase reference

/-- **The record of a run is faithful,** and all of it but the result is the
same for every reference. -/
theorem run_faithful (phrase : Text) (reference : DateTime) :
    (run phrase reference).Faithful reference ∧
      ∀ other, (run phrase other).normalized = (run phrase reference).normalized ∧
        (run phrase other).buckets = (run phrase reference).buckets ∧
        (run phrase other).attempts = (run phrase reference).attempts ∧
        (run phrase other).capture = (run phrase reference).capture := by
  have hwalk := walk_run phrase reference
  have hresult := run_result phrase reference
  refine ⟨⟨hwalk.isPrefix, hwalk.isTrue, ?_, ?_⟩, fun other => ⟨rfl, rfl, rfl, rfl⟩⟩
  · intro tried a after hattempts ha
    obtain ⟨hafter, htried, c, hcapture, hc⟩ := hwalk.matched_last hattempts ha
    have hr : c.recognizer = a.recognizer := (recognize_eq_some_iff.mp hc).sound.1
    rw [hcapture] at hresult
    exact ⟨hafter, htried, c, hcapture, hr.symm, hc, hresult⟩
  · intro hnone
    cases hcapture : (run phrase reference).capture with
    | none =>
      rw [hcapture] at hwalk hresult
      exact ⟨hwalk.capture_eq_none.1, rfl, hresult⟩
    | some c =>
      rw [hcapture] at hwalk
      obtain ⟨tried, r, hattempts, -, -⟩ := hwalk.capture_eq_some
      have hmem : ⟨r, .matched⟩ ∈ (run phrase reference).attempts := by
        rw [hattempts]
        exact List.mem_append_right tried List.mem_cons_self
      exact absurd rfl (hnone _ hmem)

/-- A weekday is found by the second recognizer, once the first is ruled out. -/
example : (run " next monday ".toList .epoch).attempts =
    [⟨.nearTime, .skipped⟩, ⟨.dayOfWeek, .matched⟩] := by decide

end TimePhrase
