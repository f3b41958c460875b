/-
# Phrases for the same move

Some phrases are two ways to ask for one move. A phrase that names the weekday or
the month of the reference itself asks for a whole turn of the cycle, ahead or
back or none at all (`occurrenceOffset_self`). A turn of the weekdays is a week,
counted in days (`DateTime.shift_seven_days`), and a turn of the months is a year,
counted in months (`DateTime.shift_twelve_months`); no turn is no move, in a leap
second too (`DateTime.shift_zero`).

So such a phrase means what the phrase with the week or the year means
(`Capture.apply_dayOfWeek_self`, `Capture.apply_month_self`), and the two have the
same result from every reference, also where that is out of range
(`resolve_synonyms`).

Key definitions: `turns`, `worded`, `turnCapture`, `turnWording`, `Synonyms`.
Key theorems: `occurrenceOffset_self`, `DateTime.shift_zero`,
`Capture.apply_dayOfWeek_self`, `Capture.apply_month_self`,
`captureOf_of_spells`, `resolve_synonyms`.
-/
import TimePhrase.Proofs.Chain.Basic
import TimePhrase.Proofs.Phrase.Normalize
import TimePhrase.Proofs.WholeDays

namespace TimePhrase

/-! ### Turns of a cycle -/

/-- The turns of a cycle that lead from a place on it to the one of its
occurrences that a qualifier asks for. -/
def turns : Option Qualifier → Int
  | none | some .this => 0
  | some .next => 1
  | some .last | some .previous => -1

theorem occurrenceOffset_self (current period : Int) (qualifier : Option Qualifier) :
    occurrenceOffset current current period qualifier = turns qualifier * period := by
  cases qualifier with
  | none => simp [occurrenceOffset, turns]
  | some q => cases q <;> simp [occurrenceOffset, turns, Qualifier.pointsBack]

namespace DateTime

theorem shift_zero (dt : DateTime) (unit : TimeUnit) : dt.shift 0 unit = .ok dt := by
  cases hspan : unit.span with
  | nanos length =>
    have hshift : dt.shift 0 unit = (dt.addNanos? (0 * length)).elim (.error .outOfRange) .ok := by
      rw [shift, hspan]
    rw [hshift, Int.zero_mul, addNanos?_zero, Option.elim_some]
  | months length =>
    have hsame : dt.onDate? dt.date = some dt := onDate?_eq_some_iff.mpr ⟨rfl, rfl⟩
    rw [dt.shift_of_months hspan, Int.zero_mul, Date.addMonths_zero, hsame, Option.elim_some]

theorem shift_seven_days (dt : DateTime) (weeks : Int) :
    dt.shift (weeks * 7) .day = dt.shift weeks .week := by
  have hday : TimeUnit.day.span = .nanos (1 * 86400000000000) := rfl
  have hweek : TimeUnit.week.span = .nanos (7 * 86400000000000) := rfl
  rw [dt.shift_eq_addNanos? hday, dt.shift_eq_addNanos? hweek, Nat.cast_one, Int.mul_one]
  rfl

theorem shift_twelve_months (dt : DateTime) (years : Int) :
    dt.shift (years * 12) .month = dt.shift years .year := by
  have hmonth : TimeUnit.month.span = .months 1 := rfl
  have hyear : TimeUnit.year.span = .months 12 := rfl
  rw [dt.shift_of_months hmonth, dt.shift_of_months hyear, Nat.cast_one, Int.mul_one]
  rfl

end DateTime

/-- What asks for the turn that a qualifier asks for, told by the length of the
cycle. -/
def turnCapture (cycle : TimeUnit) : Option Qualifier → Capture
  | none | some .this => .near .now
  | some .next => .changeUnit .next cycle
  | some .last | some .previous => .changeUnit .last cycle

theorem apply_turnCapture (cycle : TimeUnit) (qualifier : Option Qualifier) (reference : DateTime) :
    (turnCapture cycle qualifier).apply reference = reference.shift (turns qualifier) cycle := by
  cases qualifier with
  | none => exact (reference.shift_zero cycle).symm
  | some q => cases q with
    | this => exact (reference.shift_zero cycle).symm
    | next | last | previous => rfl

/-- From a date the phrases with its weekday move by weeks. -/
theorem Capture.apply_dayOfWeek_self (qualifier : Option Qualifier) (reference : DateTime) :
    (Capture.dayOfWeek qualifier reference.date.weekday).apply reference =
      (turnCapture .week qualifier).apply reference := by
  rw [apply_turnCapture, ← DateTime.shift_seven_days, Capture.apply, Date.dayOfWeek,
    occurrenceOffset_self]

/-- From a date the phrases with its month move by years. -/
theorem Capture.apply_month_self (qualifier : Option Qualifier) {number : UInt32}
    (hnumber : number.toNat = reference.date.month) :
    (Capture.month qualifier number).apply reference =
      (turnCapture .year qualifier).apply reference := by
  have hle : number.toNat ≤ 12 := hnumber ▸ reference.date.month_bounds.2
  rw [apply_turnCapture, ← DateTime.shift_twelve_months, Capture.apply, toInt_toInt32_of_le hle,
    hnumber, occurrenceOffset_self]

/-! ### Their wordings -/

/-- A name with a qualifier or none before it. -/
def worded (qualifier : Option Qualifier) (name : Text) : Text :=
  match qualifier with
  | none => name
  | some q => q.name.toList ++ ' ' :: name

/-- The words that ask for a turn, told by the length of the cycle. -/
def turnWording (cycle : TimeUnit) : Option Qualifier → Text
  | none | some .this => NearWord.now.name.toList
  | some .next => Direction.next.name.toList ++ ' ' :: cycle.name.toList
  | some .last | some .previous => Direction.last.name.toList ++ ' ' :: cycle.name.toList

theorem allBlank_space : AllBlank [' '] := by
  simp [AllBlank, isBlank]

theorem phrase_turnWording (cycle : TimeUnit) (qualifier : Option Qualifier) :
    Phrase (turnCapture cycle qualifier).recognizer (turnWording cycle qualifier)
      (turnCapture cycle qualifier) := by
  cases qualifier with
  | none => exact .near rfl
  | some q => cases q with
    | this => exact .near rfl
    | next | last | previous => exact .changeUnit (b := [' ']) rfl allBlank_space rfl

theorem phrase_worded_weekday (qualifier : Option Qualifier) (weekday : Weekday) :
    Phrase .dayOfWeek (worded qualifier weekday.name.toList) (.dayOfWeek qualifier weekday) := by
  cases qualifier with
  | none => exact .bareWeekday (b := []) (List.forall_mem_nil _) rfl
  | some q => exact .weekday (b := [' ']) rfl allBlank_space rfl

theorem phrase_worded_month (qualifier : Option Qualifier) {number : UInt32} {name : Text}
    (hnumber : 1 ≤ number.toNat ∧ number.toNat ≤ 12) (hname : name ∈ monthSpellings number.toNat) :
    Phrase .month (worded qualifier name) (.month qualifier number) := by
  cases qualifier with
  | none => exact .bareMonth (b := []) hnumber (List.forall_mem_nil _) hname rfl
  | some q => exact .month (b := [' ']) hnumber rfl allBlank_space hname rfl

/-- A phrase is captured in every case of its ASCII letters. -/
theorem captureOf_of_spells {r : Recognizer} {written words : Text} {c : Capture}
    (hwords : Phrase r words c) (h : Spells written words) :
    captureOf (.ofList written) = some c := by
  have hwritten : r.recognize written = some c := by
    rw [← recognize_asciiUpper, show asciiUpper written = asciiUpper words from h,
      recognize_asciiUpper]
    exact recognize_eq_some_iff.mpr hwords
  rw [captureOf, String.toList_ofList]
  exact firstCapture_eq_some_iff.mpr ⟨r, r.mem_all, recognize_normalize hwritten⟩

/-! ### Synonyms -/

/-- In any case of their letters the two wordings have the same value, or both lead
out of the supported years. -/
def Synonyms (reference : DateTime) (first second : Text) : Prop :=
  ∀ written other, Spells written first → Spells other second →
    (∃ moved, resolve (.ofList written) reference = .ok moved ∧
      resolve (.ofList other) reference = .ok moved) ∨
    (resolve (.ofList written) reference = .error .outOfRange ∧
      resolve (.ofList other) reference = .error .outOfRange)

/-- Phrases whose captures are applied alike are synonyms. -/
theorem Synonyms.of_phrases {reference : DateTime} {r s : Recognizer} {first second : Text}
    {c d : Capture} (hfirst : Phrase r first c) (hsecond : Phrase s second d)
    (h : c.apply reference = d.apply reference) : Synonyms reference first second := by
  intro written other hwritten hother
  rw [resolve_of_captureOf (captureOf_of_spells hfirst hwritten),
    resolve_of_captureOf (captureOf_of_spells hsecond hother), ← h]
  exact (Capture.apply_ok_or_outOfRange hfirst.sound.2 reference).imp
    (fun ⟨moved, hmoved⟩ => ⟨moved, hmoved, hmoved⟩) fun hout => ⟨hout, hout⟩

/-- **Different phrases for one move agree.** From every reference, in a leap second
too, the phrases with its weekday agree with those with the week, and the phrases
with any spelling of its month with those with the year, qualifier by qualifier.
With no qualifier and with `THIS` they agree with `NOW`, which is the reference
itself. `TOMORROW` agrees with `NEXT DAY`, and `YESTERDAY` with `LAST DAY`. -/
theorem resolve_synonyms (reference : DateTime) :
    (∀ qualifier, Synonyms reference (worded qualifier reference.date.weekday.name.toList)
      (turnWording .week qualifier)) ∧
    (∀ qualifier, ∀ name ∈ monthSpellings reference.date.month,
      Synonyms reference (worded qualifier name) (turnWording .year qualifier)) ∧
    Synonyms reference NearWord.tomorrow.name.toList (turnWording .day (some .next)) ∧
    Synonyms reference NearWord.yesterday.name.toList (turnWording .day (some .last)) ∧
    ∀ written, Spells written NearWord.now.name.toList →
      resolve (.ofList written) reference = .ok reference := by
  refine ⟨fun qualifier => ?_, fun qualifier name hname => ?_, ?_, ?_, fun written hwritten => ?_⟩
  · exact .of_phrases (phrase_worded_weekday qualifier _) (phrase_turnWording .week qualifier)
      (Capture.apply_dayOfWeek_self qualifier reference)
  · have hbounds := reference.date.month_bounds
    have hnumber : (UInt32.ofNat reference.date.month).toNat = reference.date.month :=
      UInt32.toNat_ofNat_of_lt (Nat.lt_of_le_of_lt hbounds.2 (by decide))
    rw [← hnumber] at hbounds hname
    exact .of_phrases (phrase_worded_month qualifier hbounds hname)
      (phrase_turnWording .year qualifier) (Capture.apply_month_self qualifier hnumber)
  · exact .of_phrases (.near rfl) (phrase_turnWording .day _) rfl
  · exact .of_phrases (.near rfl) (phrase_turnWording .day _) rfl
  · rw [resolve_of_captureOf (captureOf_of_spells (.near rfl) hwritten)]
    rfl

/-- From the leap second at the end of a Tuesday, the last Tuesday and the last week
are the same time. At the end of the calendar the next December and the next year
are both out of range. -/
theorem resolve_synonyms_june2015 :
    (∃ moved, resolve "LAST TUESDAY" .june2015 = .ok moved ∧
      resolve "LAST WEEK" .june2015 = .ok moved) ∧
    resolve "NEXT DEC" .latest = .error .outOfRange ∧
      resolve "NEXT YEAR" .latest = .error .outOfRange := by
  have hweekday := (resolve_synonyms .june2015).1 (some .last)
    "LAST TUESDAY".toList "LAST WEEK".toList rfl rfl
  have hmonth := (resolve_synonyms .latest).2.1 (some .next) "Dec".toList (by decide)
    "NEXT DEC".toList "NEXT YEAR".toList rfl rfl
  simp only [String.ofList_toList] at hweekday hmonth
  have hweek : resolve "LAST WEEK" .june2015 = DateTime.june2015.shift (-1) .week :=
    resolve_of_captureOf (c := .changeUnit .last .week) (by decide) _
  have hyear : resolve "NEXT YEAR" .latest = DateTime.latest.shift 1 .year :=
    resolve_of_captureOf (c := .changeUnit .next .year) (by decide) _
  refine ⟨hweekday.resolve_right fun hout => ?_, hmonth.resolve_left fun ⟨_, _, hok⟩ => ?_⟩
  · rw [hweek] at hout
    exact absurd hout.2 (by decide)
  · rw [hyear, show DateTime.latest.shift 1 .year = .error .outOfRange by decide] at hok
    cases hok

end TimePhrase
