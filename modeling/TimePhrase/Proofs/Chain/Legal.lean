/-
# Legal times along a chain

A chain that starts at a legal time meets legal times only, up to a phrase
that cuts the first second of a container off from a leap second
(`cutsLeapSecond`): such a phrase has a result, and it is not legal
(`legal_chain`). A chain that starts outside of leap seconds never meets one.

Key definition: `cutsLeapSecond`.
Key theorems: `legal_resolve_iff`, `legal_chain`.
-/
import TimePhrase.Proofs.Calendar.LeapSecond
import TimePhrase.Proofs.Chain.Basic

namespace TimePhrase

/-- The phrase asks for the first second of a container that is cut off from
the leap second of the reference. -/
def cutsLeapSecond (phrase : String) (reference : DateTime) : Bool :=
  (captureOf phrase).any (·.cutsLeapSecond reference)

variable {phrase : String} {phrases : List String} {reference moved : DateTime}

/-! ### One phrase -/

theorem legal_resolve_iff (hlegal : reference.time.Legal)
    (h : resolve phrase reference = .ok moved) :
    moved.time.Legal ↔ ¬ cutsLeapSecond phrase reference = true := by
  obtain ⟨c, hc, happly⟩ := exists_captureOf h
  rw [cutsLeapSecond, hc, Option.any_some]
  exact Capture.legal_apply_iff (sound_of_captureOf hc) hlegal happly

theorem nano_resolve_lt (hnano : reference.time.nano < 1000000000)
    (h : resolve phrase reference = .ok moved) : moved.time.nano < 1000000000 := by
  obtain ⟨c, hc, happly⟩ := exists_captureOf h
  exact Capture.nano_apply_lt (sound_of_captureOf hc) hnano happly

theorem resolve_ok_of_cutsLeapSecond (h : cutsLeapSecond phrase reference = true) :
    ∃ moved, resolve phrase reference = .ok moved := by
  rw [cutsLeapSecond] at h
  cases hc : captureOf phrase with
  | none =>
    rw [hc] at h
    cases h
  | some c =>
    rw [hc, Option.any_some] at h
    rw [resolve_of_captureOf hc]
    exact Capture.apply_ok_of_cutsLeapSecond (sound_of_captureOf hc) h

/-- What cuts off a first second leads out of the legal times, and nothing
else does. -/
theorem exists_not_legal_iff (hlegal : reference.time.Legal) :
    (∃ moved, resolve phrase reference = .ok moved ∧ ¬ moved.time.Legal) ↔
      cutsLeapSecond phrase reference = true := by
  constructor
  · rintro ⟨moved, hmoved, hnot⟩
    rw [legal_resolve_iff hlegal hmoved] at hnot
    exact not_not.mp hnot
  · intro hcut
    obtain ⟨moved, hmoved⟩ := resolve_ok_of_cutsLeapSecond hcut
    exact ⟨moved, hmoved, fun h => (legal_resolve_iff hlegal hmoved).mp h hcut⟩

/-! ### Chains -/

/-- The results of a chain are legal up to where a first second is cut off. -/
theorem legal_resolveChain_iff (hlegal : reference.time.Legal) :
    (∀ step ∈ resolveChain phrases reference, ∀ moved, step.1 = .ok moved → moved.time.Legal) ↔
      ∀ entry ∈ chainReferences phrases reference, cutsLeapSecond entry.1 entry.2 = false := by
  constructor
  · intro hsteps entry hentry
    simp only [resolveChain_eq_map, List.forall_mem_map] at hsteps
    obtain ⟨hreferences, -, -⟩ := chain_invariant (P := fun dt => dt.time.Legal)
      (fun entry hentry moved _ hmoved => hsteps entry hentry moved hmoved) hlegal
    rw [← Bool.not_eq_true, ← exists_not_legal_iff (hreferences entry hentry)]
    rintro ⟨moved, hmoved, hnot⟩
    exact hnot (hsteps entry hentry moved hmoved)
  · intro hcut
    refine (chain_invariant (P := fun dt => dt.time.Legal) ?_ hlegal).2.1
    intro entry hentry moved hentryLegal hmoved
    rw [legal_resolve_iff hentryLegal hmoved, hcut entry hentry]
    exact Bool.false_ne_true

/-- The leap second at the end of the year 2016, a Saturday. -/
def DateTime.endOf2016 : DateTime :=
  (DateTime.ofFields? 2016 12 31 23 59 59 1500000000).get (by decide)

/-- The first second of the minute keeps the fraction of the leap second, which
is no legal time. -/
theorem not_legal_first_second_of_minute :
    ¬ ∀ phrases reference, reference.time.Legal → ∀ step ∈ resolveChain phrases reference,
      ∀ moved, step.1 = .ok moved → moved.time.Legal := by
  intro h
  have hlegal : DateTime.endOf2016.time.Legal := by decide
  have hcut := (legal_resolveChain_iff hlegal).mp (h ["first second of the minute"] .endOf2016 hlegal)
  have hminute := hcut _ List.mem_cons_self
  revert hminute
  decide

/-- **A chain leaves the legal times by a first second alone.** From a legal
time a phrase leads to a time that is not legal just if it cuts the first
second of a container off from a leap second. So all results of a chain are
legal just if no phrase of it does so, and outside of leap seconds none
does. -/
theorem legal_chain :
    (∀ phrase reference, reference.time.Legal →
      ((∃ moved, resolve phrase reference = .ok moved ∧ ¬ moved.time.Legal) ↔
        cutsLeapSecond phrase reference = true)) ∧
    (∀ phrases reference, reference.time.Legal →
      ((∀ step ∈ resolveChain phrases reference, ∀ moved, step.1 = .ok moved →
        moved.time.Legal) ↔
        ∀ entry ∈ chainReferences phrases reference, cutsLeapSecond entry.1 entry.2 = false)) ∧
    ∀ phrases reference, reference.time.nano < 1000000000 →
      ∀ step ∈ resolveChain phrases reference, ∀ moved, step.1 = .ok moved →
        moved.time.nano < 1000000000 := by
  refine ⟨fun _ _ => exists_not_legal_iff, fun _ _ => legal_resolveChain_iff, ?_⟩
  intro phrases reference hnano
  refine (chain_invariant (P := fun dt => dt.time.nano < 1000000000) ?_ hnano).2.1
  exact fun entry _ moved hentry hmoved => nano_resolve_lt hentry hmoved

/-- In the last minute of 2016 the last second keeps the leap second and the
next second leaves it; only then is a first second legal. -/
theorem legal_chain_endOf2016 :
    DateTime.endOf2016.time.Legal ∧
      (∃ moved, resolve "first second of the hour" .endOf2016 = .ok moved ∧
        ¬ moved.time.Legal) ∧
      (∀ step ∈ resolveChain ["last second of the day", "next second", "first second of the hour"]
        .endOf2016, ∀ moved, step.1 = .ok moved → moved.time.Legal) ∧
      DateTime.epoch.time.nano < 1000000000 ∧
      ∀ step ∈ resolveChain ["first second of the year"] .epoch, ∀ moved, step.1 = .ok moved →
        moved.time.nano < 1000000000 := by
  have hlegal : DateTime.endOf2016.time.Legal := by decide
  obtain ⟨hone, hchain, hordinary⟩ := legal_chain
  exact ⟨hlegal, (hone _ _ hlegal).mpr (by decide), (hchain _ _ hlegal).mpr (by decide), by decide,
    hordinary _ _ (by decide)⟩

end TimePhrase
