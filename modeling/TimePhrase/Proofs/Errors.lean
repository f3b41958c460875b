/-
# The errors a phrase can cause

What a recognizer captures is sound (`Phrase.sound`): its month exists, weeks
are asked for within months and years only, and a unit only within a coarser
container. A sound capture is applied to any reference, unless the result
falls outside of the supported years (`Capture.apply_ok_or_outOfRange`). So a
phrase alone never causes an error of usage, and it is not recognized just
when no recognizer claims it (`resolve_errors`).

Key definition: `Capture.Sound`.
Key theorems: `Phrase.sound`, `Capture.apply_ok_or_outOfRange`,
`resolve_errors`.
-/
import TimePhrase.Proofs.Calendar.Edge
import TimePhrase.Proofs.Resolve

namespace TimePhrase

/-! ### Sound captures -/

/-- The numbers and units of a capture go together. -/
def Capture.Sound : Capture → Prop
  | month _ number => 1 ≤ number.toNat ∧ number.toNat ≤ 12
  | firstLastWeek _ container => container = .month ∨ container = .year
  | firstLastUnit _ unit container =>
    (unit ≠ .week ∧ unit ≠ .year) ∧ unit.isFinerThan container = true
  | near _ | dayOfWeek .. | changeUnit .. => True

theorem Phrase.sound {r : Recognizer} {text : Text} {c : Capture} (h : Phrase r text c) :
    c.recognizer = r ∧ c.Sound := by
  cases h with
  | near | bareWeekday | weekday | changeUnit => exact ⟨rfl, trivial⟩
  | bareMonth hn | month hn => exact ⟨rfl, hn⟩
  | firstLastWeek _ _ _ _ _ _ hu => exact ⟨rfl, hu⟩
  | firstLastUnit _ _ _ _ _ _ hunit _ hfiner => exact ⟨rfl, hunit, hfiner⟩

/-! ### Applying them -/

/-- A result that is missing lies outside of the supported years. -/
theorem elim_ok_or_outOfRange (result : Option DateTime) :
    (∃ moved, result.elim (.error .outOfRange) .ok = (.ok moved : Except ResolveError DateTime)) ∨
      result.elim (.error .outOfRange) .ok =
        (.error .outOfRange : Except ResolveError DateTime) := by
  cases result with
  | none => exact .inr rfl
  | some moved => exact .inl ⟨moved, rfl⟩

theorem elim_eq_ok_iff {result : Option DateTime} {moved : DateTime} :
    result.elim (.error .outOfRange) .ok = (.ok moved : Except ResolveError DateTime) ↔
      result = some moved := by
  cases result <;> simp

theorem elim_eq_outOfRange_iff {result : Option DateTime} :
    result.elim (.error .outOfRange) .ok =
        (.error .outOfRange : Except ResolveError DateTime) ↔ result = none := by
  cases result <;> simp

theorem DateTime.shift_ok_or_outOfRange (dt : DateTime) (amount : Int) (unit : TimeUnit) :
    (∃ moved, dt.shift amount unit = .ok moved) ∨ dt.shift amount unit = .error .outOfRange :=
  elim_ok_or_outOfRange _

theorem moveToEdgeWeek_ok_or_outOfRange (dt : DateTime) (edge : Edge) {container : TimeUnit}
    (h : container = .month ∨ container = .year) :
    (∃ moved, moveToEdgeWeek dt edge container = .ok moved) ∨
      moveToEdgeWeek dt edge container = .error .outOfRange := by
  rcases h with rfl | rfl <;> cases edge <;> exact elim_ok_or_outOfRange _

/-- A sound capture can be applied, but for the supported years. -/
theorem Capture.apply_ok_or_outOfRange {c : Capture} (h : c.Sound) (reference : DateTime) :
    (∃ moved, c.apply reference = .ok moved) ∨ c.apply reference = .error .outOfRange := by
  cases c with
  | near word => cases word with
    | now | today => exact .inl ⟨reference, rfl⟩
    | tomorrow => exact reference.shift_ok_or_outOfRange 1 .day
    | yesterday => exact reference.shift_ok_or_outOfRange (-1) .day
  | dayOfWeek | changeUnit | month =>
    rw [apply]
    exact reference.shift_ok_or_outOfRange _ _
  | firstLastWeek edge container => exact moveToEdgeWeek_ok_or_outOfRange reference edge h
  | firstLastUnit edge unit container =>
    exact reference.moveToEdge_ok_or_outOfRange edge h.2 h.1.1

/-! ### Results -/

theorem firstCapture_all_eq_none_iff {text : Text} :
    firstCapture Recognizer.all text = none ↔ ∀ r, Recognizer.recognize r text = none := by
  rw [firstCapture, List.findSome?_eq_none_iff]
  exact ⟨fun h r => h r r.mem_all, fun h r _ => h r⟩

/-- **A phrase alone never causes an error of usage.** What is captured is
sound and can be applied, but for the supported years, and a phrase is not
recognized just when no recognizer claims it. -/
theorem resolve_errors :
    (∀ text r c, Recognizer.recognize r text = some c → c.recognizer = r ∧ c.Sound ∧
      ∀ reference, (∃ moved, c.apply reference = .ok moved) ∨
        c.apply reference = .error .outOfRange) ∧
    ∀ phrase reference,
      ((∃ moved, resolve phrase reference = .ok moved) ∨
        resolve phrase reference = .error .outOfRange ∨
        resolve phrase reference = .error .notRecognized) ∧
      (resolve phrase reference = .error .notRecognized ↔
        ∀ r, Recognizer.recognize r (normalize phrase.toList) = none) := by
  have hsound : ∀ text r c, Recognizer.recognize r text = some c → c.recognizer = r ∧ c.Sound :=
    fun text r c h => (recognize_eq_some_iff.mp h).sound
  refine ⟨fun text r c h => ?_, fun phrase reference => ?_⟩
  · obtain ⟨hr, hs⟩ := hsound text r c h
    exact ⟨hr, hs, fun reference => Capture.apply_ok_or_outOfRange hs reference⟩
  have hresult : resolve phrase reference =
      resultOf (firstCapture Recognizer.all (normalize phrase.toList)) reference :=
    (runOver_eq Recognizer.all phrase.toList reference).2
  rw [hresult, ← firstCapture_all_eq_none_iff]
  cases hc : firstCapture Recognizer.all (normalize phrase.toList) with
  | none => exact ⟨.inr (.inr rfl), fun _ => rfl, fun _ => rfl⟩
  | some c =>
    obtain ⟨r, _, hr⟩ := firstCapture_eq_some_iff.mp hc
    have happly := Capture.apply_ok_or_outOfRange (hsound _ r c hr).2 reference
    refine ⟨happly.imp_right .inl, ?_⟩
    show c.apply reference = .error .notRecognized ↔ some c = none
    rcases happly with ⟨moved, h⟩ | h <;> rw [h] <;> simp

/-- A day has an edge within a month, and `someday` is no phrase. -/
theorem errors_last_day_and_someday :
    (Capture.firstLastUnit .last .day .month).Sound ∧
      ((∃ moved, (Capture.firstLastUnit .last .day .month).apply .epoch = .ok moved) ∨
        (Capture.firstLastUnit .last .day .month).apply .epoch = .error .outOfRange) ∧
      resolve "someday" .epoch = .error .notRecognized := by
  have h := resolve_errors.1 "LAST DAY OF MONTH".toList .firstLastUnit
    (.firstLastUnit .last .day .month) (by decide)
  refine ⟨h.2.1, h.2.2 .epoch, (resolve_errors.2 "someday" .epoch).2.mpr ?_⟩
  intro r
  cases r <;> decide

end TimePhrase
