/-
# Recognizing a text as it is written, and normalized

A recognizer does not see the case of ASCII letters: each way to read a text
is one to read it in upper case (`readings_asciiUpper`), and the words mean
the same (`recognize_asciiUpper`). Blanks at the front matter no more than a
gap (`Fits.fits_trimStart`). What is left of a phrase without them ends in a
letter and has the upper case that ASCII gives it, also where the K of `WEEK`
is a Kelvin sign (`Phrase.tidy`). So a phrase is recognized just as well after
it was normalized (`recognize_normalize`), and a run captures what the
recognizer would (`run_of_recognize`).

Key definition: `Tidy`.
Key theorems: `readings_asciiUpper`, `recognize_asciiUpper`, `Phrase.tidy`,
`recognize_normalize`, `run_of_recognize`.
-/
import TimePhrase.Proofs.Record
import TimePhrase.Proofs.Text.Trim

namespace TimePhrase

/-! ### Readings in upper case -/

/-- The readings of a text in upper case are its readings in upper case. -/
theorem readings_asciiUpper (p : Pattern) (text : Text) :
    readings p (asciiUpper text) = (readings p text).map (List.map (Option.map asciiUpper)) :=
  readings_map ⟨isBlank_toUpper, fun _ _ _ _ _ _ c => by rw [foldCase_toUpper]⟩ text

theorem Vocabulary.lookup?_asciiUpper {α : Type} (v : Vocabulary α) (w : Text) :
    v.lookup? (asciiUpper w) = v.lookup? w := by
  rw [lookup?, asciiUpper_asciiUpper, lookup?]

theorem Vocabulary.mapM_lookup?_asciiUpper {α : Type} (v : Vocabulary α) (w : Option Text) :
    (w.map asciiUpper).mapM v.lookup? = w.mapM v.lookup? := by
  cases w with
  | none => rfl
  | some w => simp only [Option.map_some, Option.mapM, lookup?_asciiUpper]

open Vocabulary in
/-- The words that were read mean the same in upper case. -/
theorem Recognizer.capture?_asciiUpper (r : Recognizer) (reading : Reading) :
    r.capture? (reading.map (Option.map asciiUpper)) = r.capture? reading := by
  fun_cases r.capture? reading with
  | case2 | case4 =>
    simp only [List.map_cons, List.map_nil, Option.map_some, capture?, lookup?_asciiUpper,
      mapM_lookup?_asciiUpper]
  | case1 | case3 | case5 | case6 =>
    simp only [List.map_cons, List.map_nil, Option.map_some, capture?, lookup?_asciiUpper]
  | case7 =>
    -- upper case does not bring a reading into the shape of a grammar
    generalize hmap : reading.map (Option.map asciiUpper) = mapped
    fun_cases r.capture? mapped with
    | case7 => rfl
    | case1 | case2 | case3 | case4 | case5 | case6 =>
      simp only [List.map_eq_cons_iff, Option.map_eq_some_iff, List.map_eq_nil_iff,
        exists_eq_right_right, ↓existsAndEq, true_and] at hmap
      grind

/-- **A recognizer does not see the case of ASCII letters.** -/
theorem recognize_asciiUpper (r : Recognizer) (text : Text) :
    r.recognize (asciiUpper text) = r.recognize text := by
  rw [Recognizer.recognize, Recognizer.recognize, Pattern.read?, readings_asciiUpper,
    List.head?_map, Pattern.read?]
  cases (readings r.pattern text).head? with
  | none => rfl
  | some reading => exact r.capture?_asciiUpper reading

/-! ### Phrases at their ends -/

/-- A text is laid out as well without the blanks at its front. -/
theorem Fits.fits_trimStart {p : Pattern} {text : Text} {reading : Reading}
    (h : Fits p text reading) (hs : p.isSolid = true) : Fits p (trimStart text) reading := by
  induction h with
  | done => exact .done
  | word hw hg h _ =>
    rw [trimStart_word (Pattern.isSolid_cons.mp hs).1 hw]
    exact .word hw hg h
  | @skip part parts blanks rest more ho hg _ ih =>
    rw [trimStart_blanks_append hg.1, ← List.nil_append (trimStart rest)]
    exact .skip ho ⟨List.forall_mem_nil _, fun _ => rfl⟩ (ih (Pattern.isSolid_cons.mp hs).2)

theorem recognize_trimStart {r : Recognizer} {text : Text} {c : Capture}
    (h : r.recognize text = some c) : r.recognize (trimStart text) = some c := by
  obtain ⟨reading, hfits, hc⟩ := recognize_eq_some_iff_fits.mp h
  exact recognize_eq_some_iff_fits.mpr ⟨reading, hfits.fits_trimStart r.isSolid_pattern, hc⟩

/-- A text with the upper case of ASCII that does not end in a blank. -/
structure Tidy (text : Text) : Prop where
  regular : Regular text
  endsPlain : endsPlain text = true

/-- Whether what is spelled as a name is tidy. -/
def isTidyName (name : Text) : Bool :=
  (asciiUpper name).all (·.toNat < 0x80) && endsPlain (asciiUpper name)

theorem Tidy.append {a b : Text} (ha : Regular a) (hb : Tidy b) : Tidy (a ++ b) :=
  ⟨ha.append hb.regular, endsPlain_append hb.endsPlain a⟩

theorem toNat_lt_of_toUpper {c : Char} (h : c.toUpper.toNat < 0x80) : c.toNat < 0x80 := by
  by_contra hc
  rw [toUpper_eq_self (by omega)] at h
  exact hc h

theorem Spells.tidy {w name : Text} (h : Spells w name) (hname : isTidyName name = true) :
    Tidy w := by
  rw [isTidyName, ← show asciiUpper w = asciiUpper name from h, Bool.and_eq_true,
    List.all_eq_true] at hname
  obtain ⟨hascii, hend⟩ := hname
  refine ⟨regular_of_ascii fun c hc => toNat_lt_of_toUpper ?_, ?_⟩
  · simpa using hascii c.toUpper (List.mem_map_of_mem hc)
  · have hletters : sameLetters w.reverse (asciiUpper w).reverse = true := by
      rw [sameLetters_iff, List.map_reverse, List.map_reverse,
        ← sameLetters_iff.mp (sameLetters_asciiUpper w)]
    rw [endsPlain, startsPlain_of_sameLetters hletters]
    exact hend

theorem SpellsWeek.regular {w : Text} (h : SpellsWeek w) : Regular w := by
  rcases h with h | ⟨front, rfl, h⟩
  · exact (h.tidy (by decide)).regular
  · have hkelvin : Regular ['\u212a'] := List.forall_mem_singleton.mpr (by decide)
    exact (h.tidy (by decide)).regular.append hkelvin

theorem Linked.tidy {c tail : Text} (h : Linked c tail) (hc : Tidy c) : Tidy tail := by
  have hconnector : ∀ l, Spells l "OF".toList ∨ Spells l "IN".toList → Regular l := by
    rintro l (hl | hl)
    · exact (hl.tidy (by decide)).regular
    · exact (hl.tidy (by decide)).regular
  cases h with
  | bare hl hb => exact (hc.append hb.regular).append (hconnector _ hl)
  | article hl h1 ha h2 =>
    have harticle := (hc.append h2.regular).append (ha.tidy (by decide)).regular
    exact (harticle.append h1.regular).append (hconnector _ hl)

theorem isTidyName_monthSpellings : ∀ n, n ≤ 12 → 1 ≤ n → ∀ name ∈ monthSpellings n,
    isTidyName name = true := by
  decide

/-- The words of a phrase and the blanks between them are tidy. -/
theorem Phrase.tidy {r : Recognizer} {text : Text} {c : Capture} (h : Phrase r text c) :
    Tidy text := by
  have hqualifier : ∀ {q : Text} {qualifier : Qualifier}, Spells q qualifier.name.toList →
      Regular q := fun {_ qualifier} h => (h.tidy (by cases qualifier <;> decide)).regular
  have hedge : ∀ {e : Text} {edge : Edge}, Spells e edge.name.toList → Regular e :=
    fun {_ edge} h => (h.tidy (by cases edge <;> decide)).regular
  have hweekday : ∀ {d : Text} {weekday : Weekday}, Spells d weekday.name.toList → Tidy d :=
    fun {_ weekday} h => h.tidy (by cases weekday <;> decide)
  have hunit : ∀ {u : Text} {unit : TimeUnit}, Spells u unit.name.toList → Tidy u :=
    fun {_ unit} h => h.tidy (by cases unit <;> decide)
  cases h with
  | @near word _ hw => exact hw.tidy (by cases word <;> decide)
  | bareWeekday hb hd => exact (hweekday hd).append hb.regular
  | weekday hq hb hd => exact ((hweekday hd).append hb.regular).append (hqualifier hq)
  | @changeUnit direction _ _ _ _ hd hb hu =>
    have hdirection := (hd.tidy (by cases direction <;> decide)).regular
    exact ((hunit hu).append hb.regular).append hdirection
  | bareMonth hn hb hname hm =>
    exact (hm.tidy (isTidyName_monthSpellings _ hn.2 hn.1 _ hname)).append hb.regular
  | month hn hq hb hname hm =>
    have hmonth := hm.tidy (isTidyName_monthSpellings _ hn.2 hn.1 _ hname)
    exact (hmonth.append hb.regular).append (hqualifier hq)
  | firstLastWeek he h1 hw h2 ht hc =>
    have hweek := ((ht.tidy (hunit hc)).append h2.regular).append hw.regular
    exact (hweek.append h1.regular).append (hedge he)
  | firstLastUnit he h1 hu h2 ht hc =>
    have hrest := ((ht.tidy (hunit hc)).append h2.regular).append (hunit hu).regular
    exact (hrest.append h1.regular).append (hedge he)

/-! ### Normalized texts -/

/-- **A phrase is recognized as well when it is normalized.** -/
theorem recognize_normalize {r : Recognizer} {text : Text} {c : Capture}
    (h : r.recognize text = some c) : r.recognize (normalize text) = some c := by
  have hstart := recognize_trimStart h
  have htidy := (recognize_eq_some_iff.mp hstart).tidy
  rw [normalize, trim_of_endsPlain htidy.endsPlain, upper_of_regular htidy.regular,
    recognize_asciiUpper]
  exact hstart

/-- An ASCII text without blanks at its ends is normalized by upper-casing. -/
theorem normalize_ascii {text : Text} (hascii : ∀ ch ∈ text, ch.toNat < 0x80)
    (hstart : ∀ ch ∈ text.head?, isBlank ch = false)
    (hend : ∀ ch ∈ text.getLast?, isBlank ch = false) : normalize text = asciiUpper text := by
  rw [normalize, trim_eq_self hstart hend, upper_of_regular (regular_of_ascii hascii)]

/-- What a run captures is a capture of the recognizer in its kind. -/
theorem run_capture_eq_some_iff {text : Text} {reference : DateTime} {c : Capture} :
    (run text reference).capture = some c ↔ c.recognizer.recognize (normalize text) = some c := by
  rw [run, (runOver_eq Recognizer.all text reference).1, firstCapture_eq_some_iff]
  constructor
  · rintro ⟨r, -, hr⟩
    rwa [(recognize_eq_some_iff.mp hr).sound.1]
  · intro h
    exact ⟨c.recognizer, c.recognizer.mem_all, h⟩

/-- **A run captures what the recognizers capture.** If a recognizer claims a
text as it is written, every run on it ends with this recognizer, its capture
and what the capture stands for. The other way around the text has to be of
ASCII characters and without blanks at its ends: then what a run captures is
the capture of a recognizer on the text as it is written. -/
theorem run_of_recognize :
    (∀ text r c, Recognizer.recognize r text = some c → ∀ reference,
      (run text reference).capture = some c ∧
        (∃ tried, (run text reference).attempts = tried ++ [⟨r, .matched⟩] ∧
          ∀ a ∈ tried, a.outcome ≠ .matched) ∧
        (run text reference).result = c.apply reference) ∧
    ∀ text : Text, (∀ ch ∈ text, ch.toNat < 0x80) →
      (∀ ch ∈ text.head?, isBlank ch = false) → (∀ ch ∈ text.getLast?, isBlank ch = false) →
      ∀ reference c, (run text reference).capture = some c →
        c.recognizer.recognize text = some c := by
  refine ⟨fun text r c h reference => ?_, fun text hascii hstart hend reference c h => ?_⟩
  · have hr : c.recognizer = r := (recognize_eq_some_iff.mp h).sound.1
    have hcapture : (run text reference).capture = some c :=
      run_capture_eq_some_iff.mpr (hr ▸ recognize_normalize h)
    have hwalk := walk_run text reference
    have hresult := run_result text reference
    rw [hcapture] at hwalk hresult
    obtain ⟨tried, last, hattempts, htried, hlast⟩ := hwalk.capture_eq_some
    have hlast' : c.recognizer = last := (recognize_eq_some_iff.mp hlast).sound.1
    rw [← hlast', hr] at hattempts
    exact ⟨hcapture, ⟨tried, hattempts, htried⟩, hresult⟩
  · rw [run_capture_eq_some_iff, normalize_ascii hascii hstart hend, recognize_asciiUpper] at h
    exact h

/-- A weekday with a blank in front, a last week with a Kelvin sign, and a
month in small letters. -/
theorem run_of_recognize_kelvin :
    (run " Monday".toList .epoch).capture = some (.dayOfWeek none .mon) ∧
      (run "last wee\u212a in year".toList .epoch).result =
        (Capture.firstLastWeek .last .year).apply .epoch ∧
      Recognizer.month.recognize "previous sept".toList = some (.month (some .previous) 9) := by
  obtain ⟨hforth, hback⟩ := run_of_recognize
  have hmonday := hforth " Monday".toList .dayOfWeek (.dayOfWeek none .mon) (by decide) .epoch
  have hweek := hforth "last wee\u212a in year".toList .firstLastWeek (.firstLastWeek .last .year)
    (by decide) .epoch
  have hmonth := hback "previous sept".toList (by simp) (by simp [isBlank])
    (by simp [isBlank]) .epoch
    (.month (some .previous) 9) (by decide)
  exact ⟨hmonday.1, hweek.2.2, hmonth⟩

end TimePhrase
