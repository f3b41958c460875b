/-
# Calendar months along a chain

A phrase that moves by months or years adds to the number of the month and
keeps the time of day; only the day may be lost, as it is pinned to the length
of the month reached (`resolve_calendar`). What a chain of such phrases keeps
of the day is therefore the least of the day it starts from and the lengths of
the months it visits (`day_chainState`), while the months add up
(`monthIndex_chainState`) whatever their order.

Key definitions: `calendarPhrases`, `visited`.
Key theorems: `resolve_calendar`, `monthIndex_chainState`, `day_chainState`,
`day_chainState_eq_iff`, `calendar_chain`.
-/
import TimePhrase.Proofs.Calendar.Month
import TimePhrase.Proofs.Calendar.MonthLength
import TimePhrase.Proofs.Chain.Basic

namespace TimePhrase

/-! ### One phrase -/

/-- The phrases of calendar units with their months. -/
def calendarPhrases : List (String × Int) := [
  ("NEXT MONTH", 1), ("LAST MONTH", -1), ("NEXT YEAR", 12), ("LAST YEAR", -12)]

theorem calendarMove?_of_mem : ∀ entry ∈ calendarPhrases, calendarMove? entry.1 = some entry.2 := by
  decide

variable {phrase : String} {phrases : List String} {reference moved : DateTime} {months : Int}

theorem Span.months?_eq_some {span : Span} {count : Nat} (h : span.months? = some count) :
    span = .months count := by
  cases span <;> cases h
  rfl

/-- A phrase of calendar units adds its months to the date and keeps the time
of day. -/
theorem resolve_calendar (h : calendarMove? phrase = some months)
    (hmoved : resolve phrase reference = .ok moved) :
    moved.date = reference.date.addMonths months ∧ moved.time = reference.time := by
  obtain ⟨amount, unit, count, hcount, rfl, hresolve⟩ := resolve_of_moveBy? h
  rw [hresolve, DateTime.shift_of_months reference (Span.months?_eq_some hcount),
    elim_eq_ok_iff] at hmoved
  exact Date.at?_eq_some_iff.mp hmoved

/-! ### Chains -/

/-- The states of a chain after its steps. -/
def visited (phrases : List String) (reference : DateTime) : List DateTime :=
  (resolveChain phrases reference).map (·.2)

theorem visited_cons_of_ok (h : resolve phrase reference = .ok moved) (phrases : List String) :
    visited (phrase :: phrases) reference = moved :: visited phrases moved := by
  rw [visited, resolveChain_cons, nextReference_of_ok h, List.map_cons, visited]

variable {moves : List (String × Int)}

/-- The months of a chain that succeeds add up. -/
theorem monthIndex_chainState (hmoves : ∀ move ∈ moves, calendarMove? move.1 = some move.2)
    (h : Succeeds (moves.map (·.1)) reference) :
    (chainState (moves.map (·.1)) reference).date.monthIndex =
      reference.date.monthIndex + (moves.map (·.2)).sum := by
  induction moves generalizing reference with
  | nil => exact (Int.add_zero _).symm
  | cons move moves ih =>
    obtain ⟨hmove, hmoves⟩ := List.forall_mem_cons.mp hmoves
    obtain ⟨next, hnext, hsucceeds⟩ := succeeds_cons_iff.mp h
    have hdate := (resolve_calendar hmove hnext).1
    rw [List.map_cons, chainState_cons_of_ok hnext]
    calc (chainState (moves.map (·.1)) next).date.monthIndex
        = next.date.monthIndex + (moves.map (·.2)).sum := ih hmoves hsucceeds
      _ = reference.date.monthIndex + move.2 + (moves.map (·.2)).sum := by
          rw [hdate, Date.monthIndex_addMonths]
      _ = reference.date.monthIndex + ((move :: moves).map (·.2)).sum := by
          rw [List.map_cons, List.sum_cons, Int.add_assoc]

/-- The day in the end is the least of the first day and the lengths of the
months on the way. -/
theorem day_chainState (hmoves : ∀ move ∈ moves, calendarMove? move.1 = some move.2)
    (h : Succeeds (moves.map (·.1)) reference) :
    (reference.date.day ::
      (visited (moves.map (·.1)) reference).map (·.date.lengthOfMonth)).min? =
        some (chainState (moves.map (·.1)) reference).date.day := by
  induction moves generalizing reference with
  | nil => rfl
  | cons move moves ih =>
    obtain ⟨hmove, hmoves⟩ := List.forall_mem_cons.mp hmoves
    obtain ⟨next, hnext, hsucceeds⟩ := succeeds_cons_iff.mp h
    have hday : next.date.day = min reference.date.day next.date.lengthOfMonth := by
      rw [(resolve_calendar hmove hnext).1]
      exact Date.day_addMonths reference.date move.2
    rw [List.map_cons, visited_cons_of_ok hnext, chainState_cons_of_ok hnext, ← ih hmoves hsucceeds]
    -- the day after the first step is the least of the first two numbers
    rw [List.map_cons, List.min?_cons', List.min?_cons', List.foldl_cons, hday]

theorem time_chainState (hmoves : ∀ move ∈ moves, calendarMove? move.1 = some move.2) :
    (chainState (moves.map (·.1)) reference).time = reference.time := by
  refine (chain_invariant (P := fun dt => dt.time = reference.time) ?_ rfl).2.2
  intro entry hentry moved hentryTime hmoved
  obtain ⟨move, hmove, hphrase⟩ := List.mem_map.mp (mem_of_mem_chainReferences hentry)
  exact (resolve_calendar (hphrase ▸ hmoves move hmove) hmoved).2.trans hentryTime

/-- The day is kept just if no month on the way is shorter. -/
theorem day_chainState_eq_iff (hmoves : ∀ move ∈ moves, calendarMove? move.1 = some move.2)
    (h : Succeeds (moves.map (·.1)) reference) :
    (chainState (moves.map (·.1)) reference).date.day = reference.date.day ↔
      ∀ dt ∈ visited (moves.map (·.1)) reference, reference.date.day ≤ dt.date.lengthOfMonth := by
  obtain ⟨hmem, hle⟩ := List.min?_eq_some_iff.mp (day_chainState hmoves h)
  rw [List.forall_mem_cons, List.forall_mem_map] at hle
  constructor
  · intro heq dt hdt
    exact heq ▸ hle.2 dt hdt
  · intro hlong
    refine Nat.le_antisymm hle.1 ?_
    rcases List.mem_cons.mp hmem with heq | hmem
    · exact Nat.le_of_eq heq.symm
    · obtain ⟨dt, hdt, heq⟩ := List.mem_map.mp hmem
      exact heq ▸ hlong dt hdt

/-- **Calendar moves lose nothing but pinned days.** The phrases of calendar
units are known. A chain of them that succeeds adds up their months, keeps the
time of day, and ends on the least of the day it started on and the lengths of
the months it visited. So the year and the month do not hang on the order of
the phrases, and the day is kept just if no month on the way is shorter; if
moreover the months cancel out, the chain comes back to where it started. -/
theorem calendar_chain :
    (∀ entry ∈ calendarPhrases, calendarMove? entry.1 = some entry.2) ∧
    ∀ (moves : List (String × Int)) (reference : DateTime),
      (∀ move ∈ moves, calendarMove? move.1 = some move.2) →
      Succeeds (moves.map (·.1)) reference →
      (chainState (moves.map (·.1)) reference).date.monthIndex =
          reference.date.monthIndex + (moves.map (·.2)).sum ∧
        (reference.date.day ::
          (visited (moves.map (·.1)) reference).map (·.date.lengthOfMonth)).min? =
            some (chainState (moves.map (·.1)) reference).date.day ∧
        (chainState (moves.map (·.1)) reference).time = reference.time ∧
        (∀ others : List (String × Int), others.Perm moves →
          Succeeds (others.map (·.1)) reference →
            (chainState (others.map (·.1)) reference).date.year =
                (chainState (moves.map (·.1)) reference).date.year ∧
              (chainState (others.map (·.1)) reference).date.month =
                (chainState (moves.map (·.1)) reference).date.month) ∧
        ((chainState (moves.map (·.1)) reference).date.day = reference.date.day ↔
          ∀ dt ∈ visited (moves.map (·.1)) reference,
            reference.date.day ≤ dt.date.lengthOfMonth) ∧
        ((moves.map (·.2)).sum = 0 →
          (chainState (moves.map (·.1)) reference = reference ↔
            ∀ dt ∈ visited (moves.map (·.1)) reference,
              reference.date.day ≤ dt.date.lengthOfMonth)) := by
  refine ⟨calendarMove?_of_mem, fun moves reference hmoves h => ?_⟩
  have hindex := monthIndex_chainState hmoves h
  have hday := day_chainState_eq_iff hmoves h
  have htime : (chainState (moves.map (·.1)) reference).time = reference.time :=
    time_chainState hmoves
  refine ⟨hindex, day_chainState hmoves h, htime, fun others hperm hothers => ?_, hday, fun hsum => ?_⟩
  · have hmoves' : ∀ move ∈ others, calendarMove? move.1 = some move.2 :=
      fun move hmove => hmoves move (hperm.mem_iff.mp hmove)
    refine Date.eq_of_monthIndex ?_
    rw [monthIndex_chainState hmoves' hothers, hindex, (hperm.map _).sum_eq]
  · rw [← hday]
    refine ⟨fun heq => by rw [heq], fun heq => DateTime.ext ?_ htime⟩
    refine Date.eq_of_monthIndex_of_day ?_ heq
    rw [hindex, hsum, Int.add_zero]

/-- The last of January of a leap year, in a leap second. -/
def DateTime.lastOfJanuary : DateTime :=
  (DateTime.ofFields? 2016 1 31 23 59 59 1500000000).get (by decide)

/-- There and back over two Februaries the last of January loses days; the
other way around no month is too short for it. -/
theorem calendar_chain_lastOfJanuary :
    Succeeds ["NEXT MONTH", "NEXT YEAR", "LAST MONTH", "LAST YEAR"] .lastOfJanuary ∧
      (chainState ["NEXT MONTH", "NEXT YEAR", "LAST MONTH", "LAST YEAR"] .lastOfJanuary).date.day ≠
        DateTime.lastOfJanuary.date.day ∧
      Succeeds ["LAST YEAR", "LAST MONTH", "NEXT YEAR", "NEXT MONTH"] .lastOfJanuary ∧
      (chainState ["LAST YEAR", "LAST MONTH", "NEXT YEAR", "NEXT MONTH"] .lastOfJanuary).date.month =
        (chainState ["NEXT MONTH", "NEXT YEAR", "LAST MONTH", "LAST YEAR"] .lastOfJanuary).date.month ∧
      chainState ["LAST YEAR", "LAST MONTH", "NEXT YEAR", "NEXT MONTH"] .lastOfJanuary =
        .lastOfJanuary := by
  have hthere : Succeeds ["NEXT MONTH", "NEXT YEAR", "LAST MONTH", "LAST YEAR"] .lastOfJanuary := by
    decide
  have hback : Succeeds ["LAST YEAR", "LAST MONTH", "NEXT YEAR", "NEXT MONTH"] .lastOfJanuary := by
    decide
  have h := calendar_chain.2
    [("NEXT MONTH", 1), ("NEXT YEAR", 12), ("LAST MONTH", -1), ("LAST YEAR", -12)] .lastOfJanuary
    (by decide) hthere
  have h' := calendar_chain.2
    [("LAST YEAR", -12), ("LAST MONTH", -1), ("NEXT YEAR", 12), ("NEXT MONTH", 1)] .lastOfJanuary
    (by decide) hback
  simp only [List.map_cons, List.map_nil] at h h'
  obtain ⟨-, -, -, horder, hkept, -⟩ := h
  obtain ⟨-, -, -, -, -, hclosed⟩ := h'
  have hmonth := (horder
    [("LAST YEAR", -12), ("LAST MONTH", -1), ("NEXT YEAR", 12), ("NEXT MONTH", 1)]
    (by decide) hback).2
  refine ⟨hthere, fun hday => ?_, hback, hmonth, (hclosed (by decide)).mpr (by decide)⟩
  exact absurd (hkept.mp hday) (by decide)

end TimePhrase
