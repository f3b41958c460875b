/-
# Phrases that follow one another

A chain resolves phrase after phrase, each against the last success. What a
chain does after some phrases hangs on the state they leave behind alone
(`resolveChain_append`), so a property that each success hands on holds of
all that a chain meets (`chain_invariant`).

The phrases that shift by a number of units are known by their captures
(`Capture.shift?`). Some move by an exact duration (`exactMove?`), the others
by calendar months (`calendarMove?`); either way they resolve as shifts
(`resolve_of_moveBy?`).

Key definitions: `captureOf`, `nextReference`, `chainState`,
`chainReferences`, `Succeeds`, `Capture.shift?`, `moveBy?`, `exactMove?`, `calendarMove?`.
Key theorems: `resolve_eq_resultOf`, `resolveChain_append`, `chain_invariant`,
`succeeds_append_iff`, `resolve_of_moveBy?`.
-/
import TimePhrase.Proofs.Errors

namespace TimePhrase

/-! ### One phrase -/

/-- What the recognizers capture of a phrase. -/
def captureOf (phrase : String) : Option Capture :=
  firstCapture Recognizer.all (normalize phrase.toList)

theorem resolve_eq_resultOf (phrase : String) (reference : DateTime) :
    resolve phrase reference = resultOf (captureOf phrase) reference :=
  (runOver_eq Recognizer.all phrase.toList reference).2

theorem resolve_of_captureOf {phrase : String} {c : Capture} (h : captureOf phrase = some c)
    (reference : DateTime) : resolve phrase reference = c.apply reference := by
  rw [resolve_eq_resultOf, h]
  rfl

/-- What is captured of a phrase is sound. -/
theorem sound_of_captureOf {phrase : String} {c : Capture} (h : captureOf phrase = some c) :
    c.Sound := by
  obtain ⟨r, _, hr⟩ := firstCapture_eq_some_iff.mp h
  exact (recognize_eq_some_iff.mp hr).sound.2

/-- A phrase has a result, leads out of the supported years or is not
recognized. -/
theorem resolve_trichotomy (phrase : String) (reference : DateTime) :
    (∃ moved, resolve phrase reference = .ok moved) ∨
      resolve phrase reference = .error .outOfRange ∨
      resolve phrase reference = .error .notRecognized := by
  rw [resolve_eq_resultOf]
  cases hc : captureOf phrase with
  | none => exact .inr (.inr rfl)
  | some c =>
    exact (Capture.apply_ok_or_outOfRange (sound_of_captureOf hc) reference).imp_right .inl

/-- A phrase that has a result was captured. -/
theorem exists_captureOf {phrase : String} {reference moved : DateTime}
    (h : resolve phrase reference = .ok moved) :
    ∃ c, captureOf phrase = some c ∧ c.apply reference = .ok moved := by
  cases hc : captureOf phrase with
  | none =>
    rw [resolve_eq_resultOf, hc] at h
    cases h
  | some c =>
    rw [resolve_of_captureOf hc] at h
    exact ⟨c, rfl, h⟩

/-! ### Chains -/

/-- The reference for what follows a phrase: its result, or the old one if it
has none. -/
def nextReference (reference : DateTime) (phrase : String) : DateTime :=
  match resolve phrase reference with
  | .ok moved => moved
  | .error _ => reference

/-- The reference that a chain leaves behind. -/
def chainState (phrases : List String) (reference : DateTime) : DateTime :=
  phrases.foldl nextReference reference

/-- Each phrase of a chain with the reference that it is resolved against. -/
def chainReferences : List String → DateTime → List (String × DateTime)
  | [], _ => []
  | phrase :: phrases, reference =>
    (phrase, reference) :: chainReferences phrases (nextReference reference phrase)

/-- All steps of a chain have a result. -/
def Succeeds (phrases : List String) (reference : DateTime) : Prop :=
  ∀ step ∈ resolveChain phrases reference, step.1.isOk = true

instance (phrases : List String) (reference : DateTime) : Decidable (Succeeds phrases reference) :=
  inferInstanceAs (Decidable (∀ step ∈ resolveChain phrases reference, step.1.isOk = true))

variable {phrase : String} {reference moved : DateTime}

theorem nextReference_of_ok (h : resolve phrase reference = .ok moved) :
    nextReference reference phrase = moved := by
  rw [nextReference, h]

theorem resolveChain_cons (phrase : String) (phrases : List String) (reference : DateTime) :
    resolveChain (phrase :: phrases) reference =
      (resolve phrase reference, nextReference reference phrase) ::
        resolveChain phrases (nextReference reference phrase) := rfl

theorem resolveChain_eq_map : ∀ (phrases : List String) (reference : DateTime),
    resolveChain phrases reference = (chainReferences phrases reference).map fun entry =>
      (resolve entry.1 entry.2, nextReference entry.2 entry.1)
  | [], _ => rfl
  | phrase :: phrases, reference => by
    rw [resolveChain_cons, chainReferences, List.map_cons, resolveChain_eq_map phrases]

theorem map_fst_chainReferences : ∀ (phrases : List String) (reference : DateTime),
    (chainReferences phrases reference).map (·.1) = phrases
  | [], _ => rfl
  | phrase :: phrases, reference => by
    rw [chainReferences, List.map_cons, map_fst_chainReferences phrases]

theorem mem_of_mem_chainReferences {phrases : List String} {entry : String × DateTime}
    (h : entry ∈ chainReferences phrases reference) : entry.1 ∈ phrases := by
  rw [← map_fst_chainReferences phrases reference]
  exact List.mem_map_of_mem h

theorem chainState_cons_of_ok (h : resolve phrase reference = .ok moved) (phrases : List String) :
    chainState (phrase :: phrases) reference = chainState phrases moved := by
  rw [chainState, List.foldl_cons, nextReference_of_ok h, chainState]

theorem chainState_append (first second : List String) (reference : DateTime) :
    chainState (first ++ second) reference = chainState second (chainState first reference) :=
  List.foldl_append

/-- A chain goes on from the state that its first part leaves behind. -/
theorem resolveChain_append : ∀ (first second : List String) (reference : DateTime),
    resolveChain (first ++ second) reference =
      resolveChain first reference ++ resolveChain second (chainState first reference)
  | [], _, _ => rfl
  | phrase :: first, second, reference => by
    rw [List.cons_append, resolveChain_cons, resolveChain_cons, resolveChain_append first,
      List.cons_append]
    rfl

/-- **What each success hands on holds all along a chain:** of every reference
that a phrase is resolved against, of every result and of the last state. -/
theorem chain_invariant {P : DateTime → Prop} {phrases : List String} {reference : DateTime}
    (hkeep : ∀ entry ∈ chainReferences phrases reference, ∀ moved, P entry.2 →
      resolve entry.1 entry.2 = .ok moved → P moved) (h : P reference) :
    (∀ entry ∈ chainReferences phrases reference, P entry.2) ∧
      (∀ step ∈ resolveChain phrases reference, ∀ moved, step.1 = .ok moved → P moved) ∧
      P (chainState phrases reference) := by
  induction phrases generalizing reference with
  | nil => exact ⟨List.forall_mem_nil _, List.forall_mem_nil _, h⟩
  | cons phrase phrases ih =>
    simp only [chainReferences, List.forall_mem_cons] at hkeep
    obtain ⟨hfirst, hothers⟩ := hkeep
    have hnext : P (nextReference reference phrase) := by
      unfold nextReference
      split
      · rename_i moved hmoved
        exact hfirst moved h hmoved
      · exact h
    obtain ⟨hreferences, hresults, hstate⟩ := ih hothers hnext
    simp only [chainReferences, resolveChain_cons, List.forall_mem_cons]
    exact ⟨⟨h, hreferences⟩, ⟨fun moved => hfirst moved h, hresults⟩, hstate⟩

theorem succeeds_append_iff {first second : List String} :
    Succeeds (first ++ second) reference ↔
      Succeeds first reference ∧ Succeeds second (chainState first reference) := by
  rw [Succeeds, resolveChain_append, List.forall_mem_append]
  rfl

/-- A chain succeeds just if its first phrase has a result and the others
succeed from there. -/
theorem succeeds_cons_iff {phrases : List String} :
    Succeeds (phrase :: phrases) reference ↔
      ∃ moved, resolve phrase reference = .ok moved ∧ Succeeds phrases moved := by
  rw [Succeeds, resolveChain_cons, List.forall_mem_cons]
  cases h : resolve phrase reference with
  | error _ => simp [Except.isOk, Except.toBool]
  | ok moved =>
    rw [nextReference_of_ok h]
    simp [Except.isOk, Except.toBool, Succeeds]

theorem succeeds_nil (reference : DateTime) : Succeeds [] reference :=
  List.forall_mem_nil _

/-! ### Phrases that shift -/

/-- The number of units that a capture shifts by. -/
def Capture.shift? : Capture → Option (Int × TimeUnit)
  | near .tomorrow => some (1, .day)
  | near .yesterday => some (-1, .day)
  | changeUnit direction unit => some (direction.sign, unit)
  | _ => none

theorem Capture.apply_of_shift? {c : Capture} {amount : Int} {unit : TimeUnit}
    (h : c.shift? = some (amount, unit)) (reference : DateTime) :
    c.apply reference = reference.shift amount unit := by
  cases c with
  | near word => cases word <;> cases h <;> rfl
  | changeUnit direction unit =>
    cases h
    rfl
  | dayOfWeek | month | firstLastWeek | firstLastUnit => cases h

/-- The length of a fixed span. -/
def Span.nanos? : Span → Option Nat
  | nanos count => some count
  | months _ => none

/-- The number of months of a span on the calendar. -/
def Span.months? : Span → Option Nat
  | nanos _ => none
  | months count => some count

/-- How far a phrase shifts, if its unit can be measured. -/
def moveBy? (measure : Span → Option Nat) (phrase : String) : Option Int := do
  let (amount, unit) ← (← captureOf phrase).shift?
  let length ← measure unit.span
  return amount * length

/-- The nanoseconds that a phrase moves by, if it shifts by units of fixed
length. -/
def exactMove? : String → Option Int :=
  moveBy? Span.nanos?

/-- The months that a phrase moves by, if it shifts on the calendar. -/
def calendarMove? : String → Option Int :=
  moveBy? Span.months?

/-- A phrase that moves resolves as a shift by so many units. -/
theorem resolve_of_moveBy? {measure : Span → Option Nat} {distance : Int}
    (h : moveBy? measure phrase = some distance) :
    ∃ (amount : Int) (unit : TimeUnit) (length : Nat), measure unit.span = some length ∧
      distance = amount * length ∧
      ∀ reference, resolve phrase reference = reference.shift amount unit := by
  simp only [moveBy?, Option.bind_eq_bind, Option.bind_eq_some_iff, Option.pure_def,
    Option.some.injEq] at h
  obtain ⟨c, hc, ⟨amount, unit⟩, hshift, length, hlength, hdistance⟩ := h
  refine ⟨amount, unit, length, hlength, hdistance.symm, fun reference => ?_⟩
  rw [resolve_of_captureOf hc, Capture.apply_of_shift? hshift]

end TimePhrase
