/-
# Texts equal up to case

Whether a text fits the pattern of a recognizer is told by the text folded
(`read?_caseFold`). What its words mean is not: a vocabulary finds a word in
any case of ASCII, but none with a long s or a Kelvin sign, though both fit
the patterns (`Vocabulary.exists_meaning`). Only the `WEEK` of first and last
weeks has no meaning to be found, and may have a Kelvin sign.

So a text with a letter that its recognizer refuses gives no capture, and any
other text gives what it gives folded (`recognize_caseFold`).

Key definitions: `Recognizer.refuses`, `foldReading`, `Coarse`,
`Recognizer.Tells`.
Key theorems: `read?_caseFold`, `Vocabulary.exists_meaning`, `tells_of_fits`,
`recognize_caseFold`.
-/
import TimePhrase.Proofs.Phrase.Recognize
import TimePhrase.Proofs.Text.CaseFolding

namespace TimePhrase

/-! ### Patterns -/

/-- What was read, with each word folded. -/
def foldReading (reading : Reading) : Reading :=
  reading.map (Option.map caseFold)

/-- Whether words are spelled in capitals of ASCII. -/
def inCapitals (words : List Text) : Bool :=
  words.all fun word => word.all Char.isUpper

theorem isUpper_of_inCapitals {words : List Text} (h : inCapitals words = true) {word : Text}
    (hword : word ∈ words) : ∀ u ∈ word, u.isUpper = true :=
  List.all_eq_true.mp (List.all_eq_true.mp h word hword)

theorem Recognizer.inCapitals_pattern (r : Recognizer) :
    ∀ part ∈ r.pattern, inCapitals part.words = true := by
  cases r <;> decide

theorem Recognizer.overlooks_simpleFold (r : Recognizer) : r.pattern.Overlooks simpleFold :=
  ⟨isBlank_simpleFold, fun part hpart _ hword u hu => foldCase_simpleFold_eq_iff
    (isUpper_of_inCapitals (r.inCapitals_pattern part hpart) hword u hu)⟩

/-- A folded text fits a pattern as the text does. -/
theorem read?_caseFold (r : Recognizer) (text : Text) :
    r.pattern.read? (caseFold text) = (r.pattern.read? text).map foldReading := by
  rw [Pattern.read?, caseFold, readings_map r.overlooks_simpleFold, List.head?_map]
  rfl

/-! ### Words -/

theorem any_isForeign_caseFold (text : Text) : (caseFold text).any isForeign = false := by
  rw [caseFold, List.any_map, List.any_eq_false]
  intro c _
  simp [isForeign_simpleFold]

/-- A word without foreign letters has the meaning of its letters, and one with
a foreign letter has none. -/
theorem Vocabulary.exists_meaning {α : Type} {v : Vocabulary α}
    (hv : inCapitals v.words = true) {words : List Text} (hwords : words ⊆ v.words) {w : Text}
    (hw : WrittenAs words w) :
    ∃ a, v.lookup? (caseFold w) = some a ∧
      v.lookup? w = if w.any isForeign then none else some a := by
  obtain ⟨word, hword, hl⟩ := hw
  have hup := isUpper_of_inCapitals hv (hwords hword)
  obtain ⟨entry, hentry, rfl⟩ := List.mem_map.mp (hwords hword)
  have hplain : ∀ {t : Text}, sameLetters t entry.1 = true → t.any isForeign = false →
      asciiUpper t = entry.1 := by
    intro t ht hforeign
    rw [List.any_eq_false] at hforeign
    exact asciiUpper_eq_of_sameLetters ht hup (.inl fun c hc => by simpa using hforeign c hc)
  obtain ⟨a, ha⟩ : ∃ a, v.lookup entry.1 = some a := by
    rw [← Option.isSome_iff_exists, List.lookup_isSome_iff]
    exact ⟨entry, hentry, beq_self_eq_true _⟩
  refine ⟨a, ?_, ?_⟩
  · have hfold : sameLetters (caseFold w) entry.1 = true := by
      rwa [caseFold, sameLetters_map fun u hu => foldCase_simpleFold_eq_iff (hup u hu)]
    rw [lookup?, hplain hfold (any_isForeign_caseFold w), ha]
  · split
    · -- a foreign letter is left alone in upper case, and stands in no word
      rename_i hforeign
      obtain ⟨c, hc, hcf⟩ := List.any_eq_true.mp hforeign
      rw [Option.eq_none_iff_forall_ne_some]
      intro b hb
      have hupper := isUpper_of_inCapitals hv (List.mem_map_of_mem (mem_of_lookup? hb)) c.toUpper
        (List.mem_map_of_mem hc)
      rw [toUpper_of_isForeign hcf] at hupper
      have hle := toNat_le_of_isUpper hupper
      have hge := le_toNat_of_isForeign hcf
      omega
    · rename_i hforeign
      rw [lookup?, hplain hl (by simpa using hforeign), ha]

/-! ### Readings -/

/-- Whether a letter fits the words of a recognizer's pattern and yet is in no
word that the recognizer looks up. The `WEEK` of first and last weeks is not
looked up, and is the only word of this pattern with a K. -/
def Recognizer.refuses (r : Recognizer) (c : Char) : Bool :=
  isForeign c && !(r = .firstLastWeek && c = '\u212a')

/-- The unit that was read, whatever the case of its letters, is not finer than
its container. -/
def Coarse (reading : Reading) : Prop :=
  ∃ edge unit link article container u c, reading = [edge, some unit, link, article, some container] ∧
    units.lookup? (caseFold unit) = some u ∧ units.lookup? (caseFold container) = some c ∧
    u.isFinerThan c = false

/-- What a recognizer makes of a reading of a text: what it makes of the folded
reading, if it refuses no letter; and this is a capture, but for a unit that is
not finer than its container. -/
structure Recognizer.Tells (r : Recognizer) (text : Text) (reading : Reading) : Prop where
  capture?_eq :
    r.capture? reading = if text.any r.refuses then none else r.capture? (foldReading reading)
  folded_eq_none_iff :
    r.capture? (foldReading reading) = none ↔ r = .firstLastUnit ∧ Coarse reading

theorem Recognizer.Tells.of_capture {r : Recognizer} {text : Text} {reading : Reading} {c : Capture}
    (hr : r ≠ .firstLastUnit) (hfold : r.capture? (foldReading reading) = some c)
    (h : r.capture? reading = if text.any r.refuses then none else some c) :
    r.Tells text reading := by
  refine ⟨by rw [hfold, h], ?_⟩
  rw [hfold]
  simp [hr]

/-! ### Letters that are refused -/

theorem Recognizer.refuses_eq {r : Recognizer} (hr : r ≠ .firstLastWeek) : r.refuses = isForeign := by
  funext c
  simp [refuses, hr]

theorem any_refuses_of_any_isForeign {t : Text} (h : t.any isForeign = false) (r : Recognizer) :
    t.any r.refuses = false := by
  rw [List.any_eq_false] at h ⊢
  intro c hc hrefused
  rw [Recognizer.refuses, Bool.and_eq_true] at hrefused
  exact h c hc hrefused.1

theorem AllBlank.any_refuses {b : Text} (h : AllBlank b) (r : Recognizer) :
    b.any r.refuses = false := by
  apply any_refuses_of_any_isForeign
  rw [List.any_eq_false]
  intro c hc hforeign
  have hblank := h c hc
  rw [isBlank_of_isForeign hforeign] at hblank
  cases hblank

theorem Spells.any_isForeign {w name : Text} (h : Spells w name)
    (hname : (asciiUpper name).any isForeign = false) : w.any isForeign = false := by
  rw [← show asciiUpper w = asciiUpper name from h, asciiUpper, List.any_map] at hname
  rw [List.any_eq_false] at hname ⊢
  intro c hc hforeign
  exact hname c hc (by rwa [Function.comp_apply, toUpper_of_isForeign hforeign])

/-- No letter is refused between a unit and its container. -/
theorem Linked.any_refuses {c tail : Text} (h : Linked c tail) (r : Recognizer) :
    tail.any r.refuses = c.any r.refuses := by
  have hconnector : ∀ l, Spells l "OF".toList ∨ Spells l "IN".toList → l.any r.refuses = false := by
    rintro l (hl | hl)
    · exact any_refuses_of_any_isForeign (hl.any_isForeign (by decide)) r
    · exact any_refuses_of_any_isForeign (hl.any_isForeign (by decide)) r
  cases h with
  | bare hl hb => simp only [List.any_append, hconnector _ hl, hb.any_refuses, Bool.false_or]
  | article hl h1 ha h2 =>
    have harticle := any_refuses_of_any_isForeign (ha.any_isForeign (by decide)) r
    simp only [List.any_append, hconnector _ hl, h1.any_refuses, harticle, h2.any_refuses,
      Bool.false_or]

theorem SpellsWeek.any_refuses {w : Text} (h : SpellsWeek w) :
    w.any Recognizer.firstLastWeek.refuses = false := by
  rcases h with h | ⟨front, rfl, h⟩
  · exact any_refuses_of_any_isForeign (h.any_isForeign (by decide)) _
  · rw [List.any_append, any_refuses_of_any_isForeign (h.any_isForeign (by decide))]
    decide

/-- In words without a K the first and last weeks refuse what all others do. -/
theorem WrittenAs.any_refuses {words : List Text} {w : Text} (h : WrittenAs words w)
    (hk : ∀ word ∈ words, 'k' ∉ word.map foldCase) :
    w.any Recognizer.firstLastWeek.refuses = w.any isForeign := by
  obtain ⟨word, hword, hl⟩ := h
  rw [Bool.eq_iff_iff, List.any_eq_true, List.any_eq_true]
  refine exists_congr fun c => and_congr_right fun hc => ?_
  have hkelvin : c ≠ '\u212a' := by
    rintro rfl
    apply hk word hword
    rw [← sameLetters_iff.mp hl]
    exact List.mem_map_of_mem hc
  simp [Recognizer.refuses, hkelvin]

/-! ### Each recognizer -/

theorem nearTime_tells {text : Text} {reading : Reading}
    (h : Fits Recognizer.nearTime.pattern text reading) : Recognizer.nearTime.Tells text reading := by
  obtain ⟨hw, rfl⟩ := fits_last_iff.mp h
  obtain ⟨word, hfold, hword⟩ := Vocabulary.exists_meaning (v := nearWords) (by decide)
    (List.Subset.refl _) hw
  refine .of_capture (c := .near word) (by decide) ?_ ?_
  · simp [foldReading, Recognizer.capture?, hfold]
  · rw [Recognizer.refuses_eq (by decide)]
    cases hforeign : text.any isForeign <;> simp [Recognizer.capture?, hword, hforeign]

theorem changeUnit_tells {text : Text} {reading : Reading}
    (h : Fits Recognizer.changeUnit.pattern text reading) :
    Recognizer.changeUnit.Tells text reading := by
  obtain ⟨d, b, u, hd, hb, hu, rfl, rfl⟩ := fits_pair_iff.mp h
  obtain ⟨direction, hdfold, hdirection⟩ := Vocabulary.exists_meaning (v := directions) (by decide)
    (List.Subset.refl _) hd
  obtain ⟨unit, hufold, hunit⟩ := Vocabulary.exists_meaning (v := units) (by decide)
    (List.Subset.refl _) hu
  refine .of_capture (c := .changeUnit direction unit) (by decide) ?_ ?_
  · simp [foldReading, Recognizer.capture?, hdfold, hufold]
  · simp only [List.any_append, hb.any_refuses]
    rw [Recognizer.refuses_eq (by decide)]
    cases hdf : d.any isForeign <;> cases huf : u.any isForeign <;>
      simp [Recognizer.capture?, hdirection, hunit, hdf, huf]

/-- A recognizer whose phrases are a word of a vocabulary with or without a
qualifier. -/
theorem qualified_tells {r : Recognizer} {α : Type} {v : Vocabulary α}
    {build : Option Qualifier → α → Capture} (hweek : r ≠ .firstLastWeek)
    (hunit : r ≠ .firstLastUnit) (hp : r.pattern = [.maybe qualifiers.words, .required v.words])
    (hcapture : ∀ q w, r.capture? [q, some w] = do
      return build (← q.mapM qualifiers.lookup?) (← v.lookup? w))
    (hv : inCapitals v.words = true) {text : Text} {reading : Reading}
    (h : Fits r.pattern text reading) : r.Tells text reading := by
  rw [hp] at h
  rcases fits_qualified_iff.mp h with ⟨q, b, w, hq, hb, hw, rfl, rfl⟩ | ⟨b, w, hb, hw, rfl, rfl⟩
  · obtain ⟨qualifier, hqfold, hqualifier⟩ := Vocabulary.exists_meaning (v := qualifiers)
      (by decide) (List.Subset.refl _) hq
    obtain ⟨a, hafold, ha⟩ := Vocabulary.exists_meaning hv (List.Subset.refl _) hw
    refine .of_capture (c := build (some qualifier) a) hunit ?_ ?_
    · simp [foldReading, hcapture, hqfold, hafold]
    · simp only [List.any_append, hb.any_refuses]
      rw [Recognizer.refuses_eq hweek, hcapture]
      cases hqf : q.any isForeign <;> cases hwf : w.any isForeign <;>
        simp [hqualifier, ha, hqf, hwf]
  · obtain ⟨a, hafold, ha⟩ := Vocabulary.exists_meaning hv (List.Subset.refl _) hw
    refine .of_capture (c := build none a) hunit ?_ ?_
    · simp [foldReading, hcapture, hafold]
    · simp only [List.any_append, hb.any_refuses]
      rw [Recognizer.refuses_eq hweek, hcapture]
      cases hwf : w.any isForeign <;> simp [ha, hwf]

theorem firstLastWeek_tells {text : Text} {reading : Reading}
    (h : Fits Recognizer.firstLastWeek.pattern text reading) :
    Recognizer.firstLastWeek.Tells text reading := by
  obtain ⟨e, b1, w, b2, tail, l, a, c, he, h1, hw, h2, ht, hc, rfl, rfl⟩ := parts_of_fits h
  obtain ⟨edge, hefold, hedge⟩ := Vocabulary.exists_meaning (v := edges) (by decide)
    (List.Subset.refl _) he
  obtain ⟨container, hcfold, hcontainer⟩ := Vocabulary.exists_meaning (v := units) (by decide)
    (by decide) hc
  refine .of_capture (c := .firstLastWeek edge container) (by decide) ?_ ?_
  · simp [foldReading, Recognizer.capture?, hefold, hcfold]
  · simp only [List.any_append, h1.any_refuses, h2.any_refuses, ht.any_refuses,
      (writtenAs_week.mp hw).any_refuses, he.any_refuses (by decide), hc.any_refuses (by decide)]
    cases hef : e.any isForeign <;> cases hcf : c.any isForeign <;>
      simp [Recognizer.capture?, hedge, hcontainer, hef, hcf]

theorem firstLastUnit_tells {text : Text} {reading : Reading}
    (h : Fits Recognizer.firstLastUnit.pattern text reading) :
    Recognizer.firstLastUnit.Tells text reading := by
  obtain ⟨e, b1, u, b2, tail, l, a, c, he, h1, hu, h2, ht, hc, rfl, rfl⟩ := parts_of_fits h
  obtain ⟨edge, hefold, hedge⟩ := Vocabulary.exists_meaning (v := edges) (by decide)
    (List.Subset.refl _) he
  obtain ⟨unit, hufold, hunit⟩ := Vocabulary.exists_meaning (v := units) (by decide)
    (by decide) hu
  obtain ⟨container, hcfold, hcontainer⟩ := Vocabulary.exists_meaning (v := units) (by decide)
    (by decide) hc
  have hfold : Recognizer.firstLastUnit.capture? (foldReading [some e, some u, l, a, some c]) =
      if unit.isFinerThan container then some (.firstLastUnit edge unit container) else none := by
    simp [foldReading, Recognizer.capture?, hefold, hufold, hcfold]
  refine ⟨?_, ?_⟩
  · simp only [List.any_append, h1.any_refuses, h2.any_refuses, ht.any_refuses]
    rw [hfold, Recognizer.refuses_eq (by decide)]
    cases hef : e.any isForeign <;> cases huf : u.any isForeign <;> cases hcf : c.any isForeign <;>
      simp [Recognizer.capture?, hedge, hunit, hcontainer, hef, huf, hcf]
  · rw [hfold]
    simp [Coarse, hufold, hcfold]

/-- What a recognizer makes of a text that fits its pattern. -/
theorem tells_of_fits {r : Recognizer} {text : Text} {reading : Reading}
    (h : Fits r.pattern text reading) : r.Tells text reading := by
  cases r with
  | nearTime => exact nearTime_tells h
  | dayOfWeek =>
    exact qualified_tells (by decide) (by decide) rfl (fun _ _ => rfl) (by decide) h
  | changeUnit => exact changeUnit_tells h
  | month => exact qualified_tells (by decide) (by decide) rfl (fun _ _ => rfl) (by decide) h
  | firstLastWeek => exact firstLastWeek_tells h
  | firstLastUnit => exact firstLastUnit_tells h

/-! ### Recognizing -/

/-- Any reading that is taken is told by the text. -/
theorem tells_of_read? {r : Recognizer} {text : Text} {reading : Reading}
    (h : r.pattern.read? text = some reading) : r.Tells text reading :=
  tells_of_fits ((mem_readings_iff_fits r.isSolid_pattern).mp (List.mem_of_head? h))

theorem recognize_eq_ite (r : Recognizer) (text : Text) :
    r.recognize text = if text.any r.refuses then none else r.recognize (caseFold text) := by
  rw [Recognizer.recognize, Recognizer.recognize, read?_caseFold]
  cases h : r.pattern.read? text with
  | none => simp
  | some reading => exact (tells_of_read? h).capture?_eq

/-- **A recognizer does not see case, but for the letters it refuses.** Texts
that are equal up to case fit its pattern alike. A text with a long s, or with
a Kelvin sign other than in the `WEEK` of first and last weeks, gives no
capture, and all others that are equal up to case give the same. So what is
lost of the texts that fit are these, and units not finer than their
container. -/
theorem recognize_caseFold (r : Recognizer) (text : Text) :
    r.pattern.read? (caseFold text) = (r.pattern.read? text).map foldReading ∧
    r.recognize text = (if text.any r.refuses then none else r.recognize (caseFold text)) ∧
    (∀ other, caseFold text = caseFold other →
      (r.recognize text = r.recognize other ↔
        text.any r.refuses = other.any r.refuses ∨ r.recognize (caseFold text) = none)) ∧
    ∀ reading, r.pattern.read? text = some reading →
      (r.capture? reading = none ↔
        text.any r.refuses = true ∨ r = .firstLastUnit ∧ Coarse reading) := by
  refine ⟨read?_caseFold r text, recognize_eq_ite r text, fun other hfold => ?_,
    fun reading h => ?_⟩
  · rw [recognize_eq_ite r text, recognize_eq_ite r other, ← hfold]
    cases text.any r.refuses <;> cases other.any r.refuses <;> simp [eq_comm]
  · have htells := tells_of_read? h
    rw [htells.capture?_eq, ← htells.folded_eq_none_iff]
    cases text.any r.refuses <;> simp

/-- The Kelvin sign in a unit, and a month within a day. -/
theorem recognize_caseFold_kelvin :
    caseFold "next wee\u212a".toList = caseFold "NEXT week".toList ∧
      Recognizer.changeUnit.recognize "next wee\u212a".toList ≠
        Recognizer.changeUnit.recognize "NEXT week".toList ∧
      Recognizer.firstLastUnit.pattern.read? "last MONTH of day".toList =
        some [some "last".toList, some "MONTH".toList, some "of".toList, none, some "day".toList] ∧
      Coarse [some "last".toList, some "MONTH".toList, some "of".toList, none,
        some "day".toList] := by
  have hfold : caseFold "next wee\u212a".toList = caseFold "NEXT week".toList := by decide +kernel
  have hread : Recognizer.firstLastUnit.pattern.read? "last MONTH of day".toList =
      some [some "last".toList, some "MONTH".toList, some "of".toList, none,
        some "day".toList] := by decide
  have hcoarse := ((recognize_caseFold .firstLastUnit _).2.2.2 _ hread).mp (by decide)
  refine ⟨hfold, ?_, hread, (hcoarse.resolve_left (by decide)).2⟩
  rw [Ne, (recognize_caseFold .changeUnit _).2.2.1 _ hfold]
  decide +kernel

/-- The long s is an S in another case to the patterns, and not to the names of
the weekdays; so is the Kelvin sign a K, and not to the names of the units. -/
theorem not_recognize_caseFold :
    (¬ ∀ r text other, caseFold text = caseFold other →
      Recognizer.recognize r text = r.recognize other) ∧
    ¬ ∀ r text reading, (Recognizer.pattern r).read? text = some reading →
      r.capture? reading = none → r = .firstLastUnit ∧ Coarse reading := by
  refine ⟨fun h => ?_, fun h => ?_⟩
  · have hsunday := h .dayOfWeek "\u017funday".toList "sunday".toList (by decide +kernel)
    revert hsunday
    decide
  · have hweek := h .changeUnit "next wee\u212a".toList
      [some "next".toList, some "wee\u212a".toList] (by decide) (by decide)
    exact absurd hweek.1 (by decide)

end TimePhrase
