/-
# Exact durations add up along a chain

A phrase that moves by units of fixed length adds a duration to the instant of
an ordinary date-time, and fails just where no date-time lies
(`resolve_exact`). So a chain of such phrases that succeeds adds the sum of
their durations (`instant_chainState`), in whatever order they come
(`chainState_perm`), and the opposite moves, the last one first, lead back
(`chain_back`).

Key definition: `exactPhrases`.
Key theorems: `resolve_exact`, `instant_chainState`, `chainState_perm`,
`chain_back`, `exact_chain`.
-/
import TimePhrase.Proofs.Calendar.Instant
import TimePhrase.Proofs.Chain.Basic

namespace TimePhrase

/-- The phrases of fixed length with their nanoseconds. -/
def exactPhrases : List (String × Int) := [
  ("TOMORROW", 86400000000000), ("YESTERDAY", -86400000000000),
  ("NEXT MILLISECOND", 1000000), ("LAST MILLISECOND", -1000000),
  ("NEXT SECOND", 1000000000), ("LAST SECOND", -1000000000),
  ("NEXT MINUTE", 60000000000), ("LAST MINUTE", -60000000000),
  ("NEXT HOUR", 3600000000000), ("LAST HOUR", -3600000000000),
  ("NEXT DAY", 86400000000000), ("LAST DAY", -86400000000000),
  ("NEXT WEEK", 604800000000000), ("LAST WEEK", -604800000000000)]

theorem exactMove?_of_mem : ∀ entry ∈ exactPhrases, exactMove? entry.1 = some entry.2 := by
  decide

/-! ### One phrase -/

variable {phrase : String} {reference moved : DateTime} {nanos : Int}

theorem Span.nanos?_eq_some {span : Span} {length : Nat} (h : span.nanos? = some length) :
    span = .nanos length := by
  cases span <;> cases h
  rfl

/-- A phrase of fixed length adds its duration to the instant, and fails just if
no date-time lies there. -/
theorem resolve_exact (h : exactMove? phrase = some nanos)
    (hnano : reference.time.nano < 1000000000) :
    (Representable (reference.instant + nanos) → ∃ moved, resolve phrase reference = .ok moved ∧
      moved.time.nano < 1000000000 ∧ moved.instant = reference.instant + nanos) ∧
    (¬ Representable (reference.instant + nanos) →
      resolve phrase reference = .error .outOfRange) := by
  obtain ⟨amount, unit, length, hlength, rfl, hresolve⟩ := resolve_of_moveBy? h
  rw [hresolve]
  exact DateTime.shift_exact hnano (Span.nanos?_eq_some hlength) amount

/-- A result lies so much later. -/
theorem instant_of_exact (h : exactMove? phrase = some nanos)
    (hnano : reference.time.nano < 1000000000) (hmoved : resolve phrase reference = .ok moved) :
    moved.time.nano < 1000000000 ∧ moved.instant = reference.instant + nanos := by
  obtain ⟨hin, hout⟩ := resolve_exact h hnano
  by_cases hrep : Representable (reference.instant + nanos)
  · obtain ⟨next, hnext, hspec⟩ := hin hrep
    rw [hmoved] at hnext
    cases hnext
    exact hspec
  · rw [hout hrep] at hmoved
    cases hmoved

theorem resolve_exact_eq_outOfRange_iff (h : exactMove? phrase = some nanos)
    (hnano : reference.time.nano < 1000000000) :
    resolve phrase reference = .error .outOfRange ↔
      ¬ Representable (reference.instant + nanos) := by
  obtain ⟨hin, hout⟩ := resolve_exact h hnano
  refine ⟨fun herror hrep => ?_, hout⟩
  obtain ⟨next, hnext, -⟩ := hin hrep
  rw [herror] at hnext
  cases hnext

/-! ### Chains -/

variable {moves : List (String × Int)}

/-- No leap second is met on the way. -/
theorem nano_chainReferences_lt (hmoves : ∀ move ∈ moves, exactMove? move.1 = some move.2)
    (hnano : reference.time.nano < 1000000000) :
    ∀ entry ∈ chainReferences (moves.map (·.1)) reference, entry.2.time.nano < 1000000000 := by
  refine (chain_invariant (P := fun dt => dt.time.nano < 1000000000) ?_ hnano).1
  intro entry hentry moved hentryNano hmoved
  obtain ⟨move, hmove, hphrase⟩ := List.mem_map.mp (mem_of_mem_chainReferences hentry)
  exact (instant_of_exact (hphrase ▸ hmoves move hmove) hentryNano hmoved).1

/-- A chain that succeeds adds the sum of its durations. -/
theorem instant_chainState (hmoves : ∀ move ∈ moves, exactMove? move.1 = some move.2)
    (hnano : reference.time.nano < 1000000000) (h : Succeeds (moves.map (·.1)) reference) :
    (chainState (moves.map (·.1)) reference).time.nano < 1000000000 ∧
      (chainState (moves.map (·.1)) reference).instant =
        reference.instant + (moves.map (·.2)).sum := by
  induction moves generalizing reference with
  | nil => exact ⟨hnano, (Int.add_zero _).symm⟩
  | cons move moves ih =>
    obtain ⟨hmove, hmoves⟩ := List.forall_mem_cons.mp hmoves
    obtain ⟨next, hnext, hsucceeds⟩ := succeeds_cons_iff.mp h
    obtain ⟨hnano', hinstant⟩ := instant_of_exact hmove hnano hnext
    obtain ⟨hend, hsum⟩ := ih hmoves hnano' hsucceeds
    rw [List.map_cons, chainState_cons_of_ok hnext]
    refine ⟨hend, ?_⟩
    calc (chainState (moves.map (·.1)) next).instant
        = next.instant + (moves.map (·.2)).sum := hsum
      _ = reference.instant + move.2 + (moves.map (·.2)).sum := by rw [hinstant]
      _ = reference.instant + ((move :: moves).map (·.2)).sum := by
          rw [List.map_cons, List.sum_cons, Int.add_assoc]

/-- The order of the moves does not count, as long as all succeed. -/
theorem chainState_perm {others : List (String × Int)}
    (hmoves : ∀ move ∈ moves, exactMove? move.1 = some move.2)
    (hnano : reference.time.nano < 1000000000) (h : Succeeds (moves.map (·.1)) reference)
    (hperm : others.Perm moves) (h' : Succeeds (others.map (·.1)) reference) :
    chainState (others.map (·.1)) reference = chainState (moves.map (·.1)) reference := by
  have hothers : ∀ move ∈ others, exactMove? move.1 = some move.2 :=
    fun move hmove => hmoves move (hperm.mem_iff.mp hmove)
  obtain ⟨hnano1, hsum1⟩ := instant_chainState hmoves hnano h
  obtain ⟨hnano2, hsum2⟩ := instant_chainState hothers hnano h'
  refine DateTime.eq_of_instant hnano2 hnano1 ?_
  rw [hsum1, hsum2, (hperm.map _).sum_eq]

/-- The opposite moves, the last one first, succeed and lead back. -/
theorem chain_back {back : List String} (hmoves : ∀ move ∈ moves, exactMove? move.1 = some move.2)
    (hback : List.Forall₂ (fun move opposite => exactMove? opposite = some (-move.2)) moves back)
    (hnano : reference.time.nano < 1000000000) (h : Succeeds (moves.map (·.1)) reference) :
    Succeeds (moves.map (·.1) ++ back.reverse) reference ∧
      chainState (moves.map (·.1) ++ back.reverse) reference = reference := by
  induction hback generalizing reference with
  | nil => exact ⟨h, rfl⟩
  | @cons move opposite moves back hopposite _ ih =>
    obtain ⟨hmove, hmoves⟩ := List.forall_mem_cons.mp hmoves
    obtain ⟨next, hnext, hsucceeds⟩ := succeeds_cons_iff.mp h
    obtain ⟨hnano', hinstant⟩ := instant_of_exact hmove hnano hnext
    obtain ⟨hthere, hstate⟩ := ih hmoves hnano' hsucceeds
    -- from the state that the inner moves come back to, the last move leads to the reference
    have hrep : Representable (next.instant + -move.2) := by
      rw [hinstant, Int.add_neg_cancel_right]
      exact representable_iff.mpr ⟨reference, hnano, rfl⟩
    obtain ⟨last, hlast, hlastNano, hlastInstant⟩ := (resolve_exact hopposite hnano').1 hrep
    have heq : last = reference := by
      refine DateTime.eq_of_instant hlastNano hnano ?_
      rw [hlastInstant, hinstant, Int.add_neg_cancel_right]
    have hopposite' : Succeeds [opposite] next := succeeds_cons_iff.mpr ⟨last, hlast, succeeds_nil _⟩
    rw [List.map_cons, List.reverse_cons, ← List.append_assoc, List.cons_append,
      succeeds_append_iff, chainState_append, succeeds_cons_iff, chainState_cons_of_ok hnext, hstate,
      chainState_cons_of_ok hlast, heq]
    exact ⟨⟨⟨next, hnext, hthere⟩, hopposite'⟩, rfl⟩

/-- **Exact durations add up.** The phrases of fixed length are known. In a
chain of them, from a reference outside of leap seconds, a step is out of range
just if no date-time lies its duration after the state it starts from. A chain
that succeeds adds the sum of its durations to the instant, in any order in
which it succeeds, and the opposite moves in reverse order succeed and lead
back. All this rests on the shift: it adds so many lengths of the unit. -/
theorem exact_chain :
    (∀ entry ∈ exactPhrases, exactMove? entry.1 = some entry.2) ∧
    (∀ (moves : List (String × Int)) (reference : DateTime),
      (∀ move ∈ moves, exactMove? move.1 = some move.2) → reference.time.nano < 1000000000 →
      (∀ entry ∈ chainReferences (moves.map (·.1)) reference, ∀ nanos,
        exactMove? entry.1 = some nanos →
          (resolve entry.1 entry.2 = .error .outOfRange ↔
            ¬ Representable (entry.2.instant + nanos))) ∧
      (Succeeds (moves.map (·.1)) reference →
        ((chainState (moves.map (·.1)) reference).time.nano < 1000000000 ∧
          (chainState (moves.map (·.1)) reference).instant =
            reference.instant + (moves.map (·.2)).sum) ∧
        (∀ others : List (String × Int), others.Perm moves →
          Succeeds (others.map (·.1)) reference →
            chainState (others.map (·.1)) reference = chainState (moves.map (·.1)) reference) ∧
        ∀ back : List String,
          List.Forall₂ (fun move opposite => exactMove? opposite = some (-move.2)) moves back →
            Succeeds (moves.map (·.1) ++ back.reverse) reference ∧
              chainState (moves.map (·.1) ++ back.reverse) reference = reference)) ∧
    ∀ (dt : DateTime) (amount : Int) (unit : TimeUnit) (length : Nat),
      dt.time.nano < 1000000000 → unit.span = .nanos length →
      (Representable (dt.instant + amount * length) → ∃ moved, dt.shift amount unit = .ok moved ∧
        moved.time.nano < 1000000000 ∧ moved.instant = dt.instant + amount * length) ∧
      (¬ Representable (dt.instant + amount * length) →
        dt.shift amount unit = .error .outOfRange) := by
  refine ⟨exactMove?_of_mem, fun moves reference hmoves hnano => ⟨?_, fun h => ?_⟩, ?_⟩
  · intro entry hentry nanos hmove
    exact resolve_exact_eq_outOfRange_iff hmove (nano_chainReferences_lt hmoves hnano entry hentry)
  · exact ⟨instant_chainState hmoves hnano h,
      fun others hperm => chainState_perm hmoves hnano h hperm,
      fun back hback => chain_back hmoves hback hnano h⟩
  · exact fun dt amount unit length hnano hunit => DateTime.shift_exact hnano hunit amount

/-- The first of March of year 0, a leap year, just after midnight. -/
def DateTime.marchOfYearZero : DateTime :=
  (DateTime.ofFields? 0 3 1 0 0 0 123).get (by decide)

/-- Over the leap day of year 0, there and back; and no day lies before the
earliest. -/
theorem exact_chain_marchOfYearZero :
    Succeeds ["LAST MILLISECOND", "YESTERDAY", "NEXT WEEK"] .marchOfYearZero ∧
      (chainState ["LAST MILLISECOND", "YESTERDAY", "NEXT WEEK"] .marchOfYearZero).instant =
        DateTime.marchOfYearZero.instant + 518399999000000 ∧
      chainState ["NEXT WEEK", "YESTERDAY", "LAST MILLISECOND"] .marchOfYearZero =
        chainState ["LAST MILLISECOND", "YESTERDAY", "NEXT WEEK"] .marchOfYearZero ∧
      chainState ["LAST MILLISECOND", "YESTERDAY", "NEXT WEEK", "LAST WEEK", "TOMORROW",
        "NEXT MILLISECOND"] .marchOfYearZero = .marchOfYearZero ∧
      resolve "YESTERDAY" .earliest = .error .outOfRange ∧
      DateTime.latest.shift 1 .second = .error .outOfRange := by
  have hmoves : ∀ move ∈ [("LAST MILLISECOND", (-1000000 : Int)), ("YESTERDAY", -86400000000000),
      ("NEXT WEEK", 604800000000000)], exactMove? move.1 = some move.2 := by decide
  have hsucceeds : Succeeds ["LAST MILLISECOND", "YESTERDAY", "NEXT WEEK"] .marchOfYearZero := by
    decide
  obtain ⟨-, hchain, hshift⟩ := exact_chain
  obtain ⟨-, hend⟩ := hchain _ .marchOfYearZero hmoves (by decide)
  obtain ⟨⟨-, hsum⟩, hperm, hback⟩ := hend hsucceeds
  have hother := hperm [("NEXT WEEK", 604800000000000), ("YESTERDAY", -86400000000000),
    ("LAST MILLISECOND", -1000000)] (by decide) (by decide)
  have hreturn := hback ["NEXT MILLISECOND", "TOMORROW", "LAST WEEK"] (by decide)
  have hearly := (hchain [("YESTERDAY", -86400000000000)] .earliest (by decide) (by decide)).1
    ("YESTERDAY", .earliest) List.mem_cons_self (-86400000000000) (by decide)
  exact ⟨hsucceeds, hsum, hother, hreturn.2, hearly.mpr (by decide),
    (hshift .latest 1 .second 1000000000 (by decide) rfl).2 (by decide)⟩

end TimePhrase
