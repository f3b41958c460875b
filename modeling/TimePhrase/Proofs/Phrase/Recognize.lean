/-
# What the recognizers claim

A recognizer gives a capture to the phrases that mean it, and to no other text
(`recognize_exactly`). Its pattern is unambiguous, so that a text is read in
one way and no reading hides another (`recognize_eq_some_iff_fits`). The
patterns are apart, so that no text is a phrase of two recognizers
(`eq_of_recognize_eq_some`).

Key theorems: `recognize_eq_some_iff_fits`, `recognize_eq_some_iff`,
`recognize_exactly`, `eq_of_recognize_eq_some`.
-/
import TimePhrase.Proofs.Phrase.Grammar

namespace TimePhrase

/-! ### Layouts of short patterns -/

theorem fits_required_iff {words : List Text} {parts : Pattern} {text : Text} {reading : Reading} :
    Fits (.required words :: parts) text reading ↔
      ∃ written blanks rest more, WrittenAs words written ∧ Gap parts blanks ∧
        Fits parts rest more ∧ text = written ++ (blanks ++ rest) ∧
        reading = some written :: more := by
  constructor
  · intro h
    cases h with
    | word hw hg h => exact ⟨_, _, _, _, hw, hg, h, rfl, rfl⟩
    | skip ho => cases ho
  · rintro ⟨written, blanks, rest, more, hw, hg, h, rfl, rfl⟩
    exact .word hw hg h

theorem fits_maybe_iff {words : List Text} {parts : Pattern} {text : Text} {reading : Reading} :
    Fits (.maybe words :: parts) text reading ↔
      (∃ written blanks rest more, WrittenAs words written ∧ Gap parts blanks ∧
        Fits parts rest more ∧ text = written ++ (blanks ++ rest) ∧
        reading = some written :: more) ∨
      ∃ blanks rest more, Gap parts blanks ∧ Fits parts rest more ∧ text = blanks ++ rest ∧
        reading = none :: more := by
  constructor
  · intro h
    cases h with
    | word hw hg h => exact .inl ⟨_, _, _, _, hw, hg, h, rfl, rfl⟩
    | skip _ hg h => exact .inr ⟨_, _, _, hg, h, rfl, rfl⟩
  · intro h
    rcases h with ⟨written, blanks, rest, more, hw, hg, h, rfl, rfl⟩ |
      ⟨blanks, rest, more, hg, h, rfl, rfl⟩
    · exact .word hw hg h
    · exact .skip rfl hg h

theorem fits_last_iff {words : List Text} {text : Text} {reading : Reading} :
    Fits [.required words] text reading ↔ WrittenAs words text ∧ reading = [some text] := by
  rw [fits_required_iff]
  constructor
  · rintro ⟨written, blanks, rest, more, hw, hg, h, rfl, rfl⟩
    cases h
    rw [hg.2 rfl]
    simpa using hw
  · rintro ⟨hw, rfl⟩
    exact ⟨text, [], [], [], hw, ⟨by simp [AllBlank], fun _ => rfl⟩, .done, by simp, rfl⟩

/-- A gap before a part is any blanks. -/
theorem gap_cons {part : Part} {parts : Pattern} {blanks : Text} :
    Gap (part :: parts) blanks ↔ AllBlank blanks := by
  simp [Gap]

theorem fits_pair_iff {first second : List Text} {text : Text} {reading : Reading} :
    Fits [.required first, .required second] text reading ↔
      ∃ f b s, WrittenAs first f ∧ AllBlank b ∧ WrittenAs second s ∧ text = f ++ (b ++ s) ∧
        reading = [some f, some s] := by
  rw [fits_required_iff]
  simp only [fits_last_iff, gap_cons]
  constructor
  · rintro ⟨f, b, s, _, hf, hb, ⟨hs, rfl⟩, rfl, rfl⟩
    exact ⟨f, b, s, hf, hb, hs, rfl, rfl⟩
  · rintro ⟨f, b, s, hf, hb, hs, rfl, rfl⟩
    exact ⟨f, b, s, _, hf, hb, ⟨hs, rfl⟩, rfl, rfl⟩

theorem fits_qualified_iff {first second : List Text} {text : Text} {reading : Reading} :
    Fits [.maybe first, .required second] text reading ↔
      (∃ f b s, WrittenAs first f ∧ AllBlank b ∧ WrittenAs second s ∧ text = f ++ (b ++ s) ∧
        reading = [some f, some s]) ∨
      ∃ b s, AllBlank b ∧ WrittenAs second s ∧ text = b ++ s ∧ reading = [none, some s] := by
  simp only [fits_maybe_iff, fits_last_iff, gap_cons]
  constructor
  · rintro (⟨f, b, s, _, hf, hb, ⟨hs, rfl⟩, rfl, rfl⟩ | ⟨b, s, _, hb, ⟨hs, rfl⟩, rfl, rfl⟩)
    · exact .inl ⟨f, b, s, hf, hb, hs, rfl, rfl⟩
    · exact .inr ⟨b, s, hb, hs, rfl, rfl⟩
  · rintro (⟨f, b, s, hf, hb, hs, rfl, rfl⟩ | ⟨b, s, hb, hs, rfl, rfl⟩)
    · exact .inl ⟨f, b, s, _, hf, hb, ⟨hs, rfl⟩, rfl, rfl⟩
    · exact .inr ⟨b, s, _, hb, ⟨hs, rfl⟩, rfl, rfl⟩

/-- The last three parts of a pattern that ties a unit to its container. -/
theorem linked_of_fits {words : List Text} {text : Text} {reading : Reading}
    (h : Fits [.required Recognizer.connectors, .maybe Recognizer.articles, .required words] text
      reading) :
    ∃ l a c, Linked c text ∧ WrittenAs words c ∧ reading = [some l, a, some c] := by
  obtain ⟨l, b1, rest, more, hl, hb1, hrest, rfl, rfl⟩ := fits_required_iff.mp h
  rw [gap_cons] at hb1
  rw [writtenAs_connectors] at hl
  rcases fits_qualified_iff.mp hrest with ⟨a, b2, c, ha, hb2, hc, rfl, rfl⟩ |
    ⟨b2, c, hb2, hc, rfl, rfl⟩
  · rw [writtenAs_articles] at ha
    exact ⟨l, some a, c, .article hl hb1 ha hb2, hc, rfl⟩
  · refine ⟨l, none, c, ?_, hc, rfl⟩
    rw [← List.append_assoc b1]
    exact .bare hl (hb1.append hb2)

theorem fits_of_linked {words : List Text} {text c : Text} (h : Linked c text)
    (hc : WrittenAs words c) :
    ∃ l a, Fits [.required Recognizer.connectors, .maybe Recognizer.articles, .required words] text
      [some l, a, some c] := by
  cases h with
  | @bare l b hl hb =>
    have hrest : Fits [.maybe Recognizer.articles, .required words] c [none, some c] :=
      fits_qualified_iff.mpr (.inr ⟨[], c, by simp [AllBlank], hc, rfl, rfl⟩)
    exact ⟨l, none, .word (writtenAs_connectors.mpr hl) (gap_cons.mpr hb) hrest⟩
  | @article l b1 a b2 hl h1 ha h2 =>
    have hrest : Fits [.maybe Recognizer.articles, .required words] (a ++ (b2 ++ c))
        [some a, some c] :=
      fits_qualified_iff.mpr (.inl ⟨a, b2, c, writtenAs_articles.mpr ha, h2, hc, rfl, rfl⟩)
    exact ⟨l, some a, .word (writtenAs_connectors.mpr hl) (gap_cons.mpr h1) hrest⟩

/-- The layouts of a pattern for an edge, a unit and a container. -/
theorem parts_of_fits {first second third : List Text} {text : Text} {reading : Reading}
    (h : Fits [.required first, .required second, .required Recognizer.connectors,
      .maybe Recognizer.articles, .required third] text reading) :
    ∃ e b1 u b2 tail l a c, WrittenAs first e ∧ AllBlank b1 ∧ WrittenAs second u ∧ AllBlank b2 ∧
      Linked c tail ∧ WrittenAs third c ∧ text = e ++ (b1 ++ (u ++ (b2 ++ tail))) ∧
      reading = [some e, some u, l, a, some c] := by
  obtain ⟨e, b1, rest, more, he, h1, hrest, rfl, rfl⟩ := fits_required_iff.mp h
  obtain ⟨u, b2, tail, more, hu, h2, htail, rfl, rfl⟩ := fits_required_iff.mp hrest
  obtain ⟨l, a, c, ht, hc, rfl⟩ := linked_of_fits htail
  exact ⟨e, b1, u, b2, tail, some l, a, c, he, gap_cons.mp h1, hu, gap_cons.mp h2, ht, hc, rfl, rfl⟩

theorem fits_of_parts {first second third : List Text} {e b1 u b2 tail c : Text}
    (he : WrittenAs first e) (h1 : AllBlank b1) (hu : WrittenAs second u) (h2 : AllBlank b2)
    (ht : Linked c tail) (hc : WrittenAs third c) :
    ∃ l a, Fits [.required first, .required second, .required Recognizer.connectors,
      .maybe Recognizer.articles, .required third] (e ++ (b1 ++ (u ++ (b2 ++ tail))))
        [some e, some u, some l, a, some c] := by
  obtain ⟨l, a, htail⟩ := fits_of_linked ht hc
  exact ⟨l, a, .word he (gap_cons.mpr h1) (.word hu (gap_cons.mpr h2) htail)⟩

/-! ### The recognizers -/

theorem Recognizer.isSolid_pattern (r : Recognizer) : r.pattern.isSolid = true := by
  cases r <;> decide

theorem Recognizer.isUnambiguous_pattern (r : Recognizer) : r.pattern.isUnambiguous = true := by
  cases r <;> decide

/-- A capture comes from the one layout of the text. -/
theorem recognize_eq_some_iff_fits {r : Recognizer} {text : Text} {c : Capture} :
    r.recognize text = some c ↔
      ∃ reading, Fits r.pattern text reading ∧ r.capture? reading = some c := by
  have hs := r.isSolid_pattern
  rw [Recognizer.recognize, Option.bind_eq_bind, Option.bind_eq_some_iff]
  constructor
  · rintro ⟨reading, hr, hc⟩
    exact ⟨reading, (mem_readings_iff_fits hs).mp (List.mem_of_head? hr), hc⟩
  · rintro ⟨reading, h, hc⟩
    obtain ⟨first, hfirst⟩ : ∃ first, r.pattern.read? text = some first := by
      have hm := (mem_readings_iff_fits hs).mpr h
      exact ⟨_, List.head?_eq_some_head (List.ne_nil_of_mem hm)⟩
    -- there is one layout, so it does not matter which reading came first
    have hfits := (mem_readings_iff_fits hs).mp (List.mem_of_head? hfirst)
    rw [h.reading_unique hs r.isUnambiguous_pattern hfits rfl] at hc
    exact ⟨first, hfirst, hc⟩

theorem nearTime_recognize_iff {text : Text} {c : Capture} :
    Recognizer.nearTime.recognize text = some c ↔ Phrase .nearTime text c := by
  rw [recognize_eq_some_iff_fits]
  constructor
  · rintro ⟨reading, h, hc⟩
    obtain ⟨_, rfl⟩ := fits_last_iff.mp h
    obtain ⟨word, hw, rfl⟩ : ∃ word, nearWords.lookup? text = some word ∧ .near word = c := by
      simpa [Recognizer.capture?, Option.bind_eq_some_iff] using hc
    exact .near (nearWords_lookup?.mp hw)
  · intro h
    cases h with
    | near hw =>
      have hl := nearWords_lookup?.mpr hw
      refine ⟨_, fits_last_iff.mpr ⟨Vocabulary.writtenAs hl, rfl⟩, ?_⟩
      simp [Recognizer.capture?, hl]

/-- A recognizer whose phrases are a word of a vocabulary with or without a
qualifier. -/
theorem qualified_recognize_iff {r : Recognizer} {α : Type} {v : Vocabulary α}
    {build : Option Qualifier → α → Capture}
    (hp : r.pattern = [.maybe qualifiers.words, .required v.words])
    (hcapture : ∀ q w, r.capture? [q, some w] = do
      return build (← q.mapM qualifiers.lookup?) (← v.lookup? w)) {text : Text} {c : Capture} :
    r.recognize text = some c ↔
      (∃ q b w qualifier a, text = q ++ (b ++ w) ∧ AllBlank b ∧
        qualifiers.lookup? q = some qualifier ∧ v.lookup? w = some a ∧
        build (some qualifier) a = c) ∨
      ∃ b w a, text = b ++ w ∧ AllBlank b ∧ v.lookup? w = some a ∧ build none a = c := by
  rw [recognize_eq_some_iff_fits, hp]
  constructor
  · rintro ⟨reading, h, hc⟩
    rcases fits_qualified_iff.mp h with ⟨q, b, w, _, hb, _, rfl, rfl⟩ | ⟨b, w, hb, _, rfl, rfl⟩
    · obtain ⟨qualifier, hq, a, ha, rfl⟩ : ∃ qualifier, qualifiers.lookup? q = some qualifier ∧
          ∃ a, v.lookup? w = some a ∧ build (some qualifier) a = c := by
        simpa [hcapture, Option.bind_eq_some_iff] using hc
      exact .inl ⟨q, b, w, qualifier, a, rfl, hb, hq, ha, rfl⟩
    · obtain ⟨a, ha, rfl⟩ : ∃ a, v.lookup? w = some a ∧ build none a = c := by
        simpa [hcapture, Option.bind_eq_some_iff] using hc
      exact .inr ⟨b, w, a, rfl, hb, ha, rfl⟩
  · rintro (⟨q, b, w, qualifier, a, rfl, hb, hq, ha, rfl⟩ | ⟨b, w, a, rfl, hb, ha, rfl⟩)
    · refine ⟨_, fits_qualified_iff.mpr
        (.inl ⟨q, b, w, Vocabulary.writtenAs hq, hb, Vocabulary.writtenAs ha, rfl, rfl⟩), ?_⟩
      simp [hcapture, hq, ha]
    · refine ⟨_, fits_qualified_iff.mpr (.inr ⟨b, w, hb, Vocabulary.writtenAs ha, rfl, rfl⟩), ?_⟩
      simp [hcapture, ha]

theorem dayOfWeek_recognize_iff {text : Text} {c : Capture} :
    Recognizer.dayOfWeek.recognize text = some c ↔ Phrase .dayOfWeek text c := by
  rw [qualified_recognize_iff (r := .dayOfWeek) rfl fun _ _ => rfl]
  constructor
  · rintro (⟨q, b, d, qualifier, weekday, rfl, hb, hq, hd, rfl⟩ | ⟨b, d, weekday, rfl, hb, hd, rfl⟩)
    · exact .weekday (qualifiers_lookup?.mp hq) hb (weekdays_lookup?.mp hd)
    · exact .bareWeekday hb (weekdays_lookup?.mp hd)
  · intro h
    cases h with
    | bareWeekday hb hd => exact .inr ⟨_, _, _, rfl, hb, weekdays_lookup?.mpr hd, rfl⟩
    | weekday hq hb hd =>
      exact .inl ⟨_, _, _, _, _, rfl, hb, qualifiers_lookup?.mpr hq, weekdays_lookup?.mpr hd, rfl⟩

theorem month_recognize_iff {text : Text} {c : Capture} :
    Recognizer.month.recognize text = some c ↔ Phrase .month text c := by
  rw [qualified_recognize_iff (r := .month) rfl fun _ _ => rfl]
  constructor
  · rintro (⟨q, b, m, qualifier, number, rfl, hb, hq, hm, rfl⟩ | ⟨b, m, number, rfl, hb, hm, rfl⟩)
    · obtain ⟨hn, name, hname, hm⟩ := months_lookup?.mp hm
      exact .month hn (qualifiers_lookup?.mp hq) hb hname hm
    · obtain ⟨hn, name, hname, hm⟩ := months_lookup?.mp hm
      exact .bareMonth hn hb hname hm
  · intro h
    cases h with
    | bareMonth hn hb hname hm =>
      exact .inr ⟨_, _, _, rfl, hb, months_lookup?.mpr ⟨hn, _, hname, hm⟩, rfl⟩
    | month hn hq hb hname hm =>
      exact .inl ⟨_, _, _, _, _, rfl, hb, qualifiers_lookup?.mpr hq,
        months_lookup?.mpr ⟨hn, _, hname, hm⟩, rfl⟩

theorem changeUnit_recognize_iff {text : Text} {c : Capture} :
    Recognizer.changeUnit.recognize text = some c ↔ Phrase .changeUnit text c := by
  rw [recognize_eq_some_iff_fits]
  constructor
  · rintro ⟨reading, h, hc⟩
    obtain ⟨d, b, u, _, hb, _, rfl, rfl⟩ := fits_pair_iff.mp h
    obtain ⟨direction, hd, unit, hu, rfl⟩ : ∃ direction, directions.lookup? d = some direction ∧
        ∃ unit, units.lookup? u = some unit ∧ .changeUnit direction unit = c := by
      simpa [Recognizer.capture?, Option.bind_eq_some_iff] using hc
    exact .changeUnit (directions_lookup?.mp hd) hb (units_lookup?.mp hu)
  · intro h
    cases h with
    | changeUnit hd hb hu =>
      have hld := directions_lookup?.mpr hd
      have hlu := units_lookup?.mpr hu
      refine ⟨_, fits_pair_iff.mpr
        ⟨_, _, _, Vocabulary.writtenAs hld, hb, Vocabulary.writtenAs hlu, rfl, rfl⟩, ?_⟩
      simp [Recognizer.capture?, hld, hlu]

theorem firstLastWeek_recognize_iff {text : Text} {c : Capture} :
    Recognizer.firstLastWeek.recognize text = some c ↔ Phrase .firstLastWeek text c := by
  rw [recognize_eq_some_iff_fits]
  constructor
  · rintro ⟨reading, h, hc⟩
    obtain ⟨e, b1, w, b2, tail, l, a, name, _, h1, hw, h2, ht, hwritten, rfl, rfl⟩ :=
      parts_of_fits h
    obtain ⟨edge, he, container, hname, rfl⟩ : ∃ edge, edges.lookup? e = some edge ∧
        ∃ container, units.lookup? name = some container ∧ .firstLastWeek edge container = c := by
      simpa [Recognizer.capture?, Option.bind_eq_some_iff] using hc
    have hu : container = .month ∨ container = .year := by
      simpa using Vocabulary.test_of_writtenAs_only units_distinct hwritten hname
    exact .firstLastWeek (edges_lookup?.mp he) h1 (writtenAs_week.mp hw) h2 ht
      (units_lookup?.mp hname) hu
  · intro h
    cases h with
    | firstLastWeek he h1 hw h2 ht hc hu =>
      have hle := edges_lookup?.mpr he
      have hlc := units_lookup?.mpr hc
      have hwc : WrittenAs (units.only fun u => u = .month || u = .year).words _ :=
        Vocabulary.writtenAs_only hlc (by simpa using hu)
      obtain ⟨l, a, hfits⟩ :=
        fits_of_parts (Vocabulary.writtenAs hle) h1 (writtenAs_week.mpr hw) h2 ht hwc
      refine ⟨_, hfits, ?_⟩
      simp [Recognizer.capture?, hle, hlc]

theorem firstLastUnit_recognize_iff {text : Text} {c : Capture} :
    Recognizer.firstLastUnit.recognize text = some c ↔ Phrase .firstLastUnit text c := by
  rw [recognize_eq_some_iff_fits]
  constructor
  · rintro ⟨reading, h, hc⟩
    obtain ⟨e, b1, u, b2, tail, l, a, name, _, h1, hwu, h2, ht, hwc, rfl, rfl⟩ := parts_of_fits h
    obtain ⟨edge, he, unit, hu, container, hname, hfiner, rfl⟩ :
        ∃ edge, edges.lookup? e = some edge ∧ ∃ unit, units.lookup? u = some unit ∧
          ∃ container, units.lookup? name = some container ∧
            unit.isFinerThan container = true ∧ .firstLastUnit edge unit container = c := by
      simpa [Recognizer.capture?, Option.bind_eq_some_iff] using hc
    have hunit : unit ≠ .week ∧ unit ≠ .year := by
      simpa using Vocabulary.test_of_writtenAs_only units_distinct hwu hu
    have hcontainer : container ≠ .millisecond := by
      simpa using Vocabulary.test_of_writtenAs_only units_distinct hwc hname
    exact .firstLastUnit (edges_lookup?.mp he) h1 (units_lookup?.mp hu) h2 ht
      (units_lookup?.mp hname) hunit hcontainer hfiner
  · intro h
    cases h with
    | firstLastUnit he h1 hu h2 ht hc hunit hcontainer hfiner =>
      have hle := edges_lookup?.mpr he
      have hlu := units_lookup?.mpr hu
      have hlc := units_lookup?.mpr hc
      have hwu : WrittenAs (units.only fun u => u ≠ .week && u ≠ .year).words _ :=
        Vocabulary.writtenAs_only hlu (by simpa using hunit)
      have hwc : WrittenAs (units.only (· ≠ .millisecond)).words _ :=
        Vocabulary.writtenAs_only hlc (by simpa using hcontainer)
      obtain ⟨l, a, hfits⟩ := fits_of_parts (Vocabulary.writtenAs hle) h1 hwu h2 ht hwc
      refine ⟨_, hfits, ?_⟩
      simp [Recognizer.capture?, hle, hlu, hlc, hfiner]

/-- A recognizer gives a capture to the phrases that mean it. -/
theorem recognize_eq_some_iff {r : Recognizer} {text : Text} {c : Capture} :
    r.recognize text = some c ↔ Phrase r text c := by
  cases r with
  | nearTime => exact nearTime_recognize_iff
  | dayOfWeek => exact dayOfWeek_recognize_iff
  | changeUnit => exact changeUnit_recognize_iff
  | month => exact month_recognize_iff
  | firstLastWeek => exact firstLastWeek_recognize_iff
  | firstLastUnit => exact firstLastUnit_recognize_iff

/-- **Each recognizer accepts its grammar and no more, and a phrase has one
meaning.** -/
theorem recognize_exactly (r : Recognizer) (text : Text) :
    (∀ c, r.recognize text = some c ↔ Phrase r text c) ∧
      ∀ c c', Phrase r text c → Phrase r text c' → c = c' := by
  refine ⟨fun c => recognize_eq_some_iff, fun c c' h h' => ?_⟩
  rw [← recognize_eq_some_iff] at h h'
  exact Option.some.inj (h.symm.trans h')

/-- The last week of the year, with a Kelvin sign and no blank before the
article. -/
theorem phrase_last_week_of_year :
    Phrase .firstLastWeek "last wee\u212a ofthe year".toList (.firstLastWeek .last .year) ∧
      ∀ c, Phrase .firstLastWeek "last wee\u212a ofthe year".toList c →
        c = .firstLastWeek .last .year := by
  have h := ((recognize_exactly .firstLastWeek "last wee\u212a ofthe year".toList).1
    (.firstLastWeek .last .year)).mp (by decide)
  exact ⟨h, fun c hc => (recognize_exactly _ _).2 c _ hc h⟩

/-- A long s fits the pattern, but no name is spelled with it. -/
example : Recognizer.dayOfWeek.recognize "\u017funday".toList = none := by decide

/-! ### No text for two recognizers -/

theorem Recognizer.isApart_pattern {r s : Recognizer} (h : r ≠ s) :
    r.pattern.isApart s.pattern = true := by
  revert h
  cases r <;> cases s <;> decide

/-- A text is a phrase of one recognizer at most. -/
theorem eq_of_recognize_eq_some {r s : Recognizer} {text : Text} {c d : Capture}
    (hr : r.recognize text = some c) (hs : s.recognize text = some d) : r = s := by
  by_contra hne
  obtain ⟨_, hfr, _⟩ := recognize_eq_some_iff_fits.mp hr
  obtain ⟨_, hfs, _⟩ := recognize_eq_some_iff_fits.mp hs
  exact hfr.false_of_apart r.isSolid_pattern (Recognizer.isApart_pattern hne) s.isSolid_pattern
    hfs rfl

end TimePhrase
