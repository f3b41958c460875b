/-
# The readings of a pattern

`Fits` says how a text is laid out by a pattern: written words in order, a gap
of blanks after each but the last. If no word of the pattern starts with a
blank, `readings` lists exactly the layouts (`mem_readings_iff_fits`).

Two properties of patterns are decided on their words alone. They hold up to
blanks at the front, which is what carries their inductions: where two texts
agree after such blanks, their first words start one from the other, so that
they are the same word if no two words of a place overlap.

* In an unambiguous pattern a text is laid out in one way only
  (`Fits.reading_unique`).
* Two patterns apart lay out no text in common (`Fits.false_of_apart`).

A change of characters that keeps the blanks, and the letters of the words as
folding sees them, changes no reading but for the characters in it
(`readings_map`).

Key definitions: `Fits`, `Pattern.isSolid`, `Pattern.Overlooks`,
`Pattern.firsts`, `overlap`, `Pattern.isUnambiguous`, `Pattern.isApart`.
Key theorems: `mem_readings_iff_fits`, `readings_map`, `Fits.reading_unique`,
`Fits.false_of_apart`.
-/
import TimePhrase.Proofs.Text.Letters

namespace TimePhrase

/-! ### Layouts -/

/-- A text with the letters of one of the words. -/
def WrittenAs (words : List Text) (written : Text) : Prop :=
  ∃ word ∈ words, sameLetters written word = true

/-- What may stand between a word and the parts that follow it: blanks, and
nothing if there are none to follow. -/
def Gap (parts : Pattern) (blanks : Text) : Prop :=
  AllBlank blanks ∧ (parts = [] → blanks = [])

/-- The text is laid out by the pattern, and these are the words written. -/
inductive Fits : Pattern → Text → Reading → Prop
  | done : Fits [] [] []
  | word {part : Part} {parts : Pattern} {written blanks rest : Text} {more : Reading}
      (hw : WrittenAs part.words written) (hg : Gap parts blanks) (h : Fits parts rest more) :
      Fits (part :: parts) (written ++ (blanks ++ rest)) (some written :: more)
  | skip {part : Part} {parts : Pattern} {blanks rest : Text} {more : Reading}
      (ho : part.optional = true) (hg : Gap parts blanks) (h : Fits parts rest more) :
      Fits (part :: parts) (blanks ++ rest) (none :: more)

theorem readWord?_eq_some_iff {text word written rest : Text} :
    readWord? text word = some (written, rest) ↔
      sameLetters written word = true ∧ text = written ++ rest := by
  constructor
  · intro h
    exact ⟨sameLetters_of_readWord? h, (append_of_readWord? h).symm⟩
  · rintro ⟨h, rfl⟩
    have hl := length_eq_of_sameLetters h
    rw [readWord?, ← hl, List.take_left, List.drop_left, if_pos h]

theorem mem_readings_nil {text : Text} {reading : Reading} :
    reading ∈ readings [] text ↔ text = [] ∧ reading = [] := by
  unfold readings
  split
  · rename_i h
    simp [List.isEmpty_iff.mp h]
  · rename_i h
    simp [List.isEmpty_iff] at h
    simp [h]

theorem mem_readings_cons {part : Part} {parts : Pattern} {text : Text} {reading : Reading} :
    reading ∈ readings (part :: parts) text ↔
      (∃ written rest more, WrittenAs part.words written ∧ text = written ++ rest ∧
        more ∈ readings parts (skipBlanks parts rest) ∧ reading = some written :: more) ∨
      (part.optional = true ∧ ∃ more ∈ readings parts (skipBlanks parts text),
        reading = none :: more) := by
  rw [readings, List.mem_append]
  apply or_congr
  · simp only [List.mem_flatMap, List.mem_filterMap, List.mem_map, Prod.exists,
      readWord?_eq_some_iff]
    constructor
    · rintro ⟨written, rest, ⟨word, hw, hl, ht⟩, more, hm, rfl⟩
      exact ⟨written, rest, more, ⟨word, hw, hl⟩, ht, hm, rfl⟩
    · rintro ⟨written, rest, more, ⟨word, hw, hl⟩, ht, hm, rfl⟩
      exact ⟨written, rest, ⟨word, hw, hl, ht⟩, more, hm, rfl⟩
  · split
    · rename_i ho
      simp [ho, eq_comm]
    · rename_i ho
      simp [ho]

theorem exists_gap (parts : Pattern) (text : Text) :
    ∃ blanks, Gap parts blanks ∧ text = blanks ++ skipBlanks parts text := by
  cases parts with
  | nil => exact ⟨[], ⟨by simp [AllBlank], fun _ => rfl⟩, rfl⟩
  | cons part parts =>
    obtain ⟨blanks, hb, ht⟩ := exists_blanks_append_trimStart text
    exact ⟨blanks, ⟨hb, by simp⟩, ht⟩

theorem fits_of_mem_readings : ∀ {p : Pattern} {text : Text} {reading : Reading},
    reading ∈ readings p text → Fits p text reading
  | [], text, reading, h => by
    obtain ⟨rfl, rfl⟩ := mem_readings_nil.mp h
    exact .done
  | part :: parts, text, reading, h => by
    rcases mem_readings_cons.mp h with ⟨written, rest, more, hw, rfl, hm, rfl⟩ | ⟨ho, more, hm, rfl⟩
    · obtain ⟨blanks, hg, ht⟩ := exists_gap parts rest
      rw [ht]
      exact .word hw hg (fits_of_mem_readings hm)
    · obtain ⟨blanks, hg, ht⟩ := exists_gap parts text
      rw [ht]
      exact .skip ho hg (fits_of_mem_readings hm)

/-! ### Patterns whose words show where they start -/

/-- No word is empty or starts with a blank. -/
def Pattern.isSolid (p : Pattern) : Bool :=
  p.all fun part => part.words.all startsPlain

theorem Pattern.isSolid_cons {part : Part} {parts : Pattern} :
    isSolid (part :: parts) = true ↔
      (∀ word ∈ part.words, startsPlain word = true) ∧ isSolid parts = true := by
  simp [isSolid]

theorem startsPlain_of_writtenAs {words : List Text} {written : Text}
    (hs : ∀ word ∈ words, startsPlain word = true) (h : WrittenAs words written) :
    startsPlain written = true := by
  obtain ⟨word, hw, hl⟩ := h
  rw [startsPlain_of_sameLetters hl]
  exact hs word hw

/-- The readings do not change with the gap before a text. -/
theorem mem_readings_skipBlanks {parts : Pattern} (hs : Pattern.isSolid parts = true)
    {blanks rest : Text} (hg : Gap parts blanks) {more : Reading} (h : more ∈ readings parts rest) :
    more ∈ readings parts (skipBlanks parts (blanks ++ rest)) := by
  cases parts with
  | nil =>
    rw [hg.2 rfl]
    exact h
  | cons part parts =>
    have e : skipBlanks (part :: parts) (blanks ++ rest) = trimStart rest :=
      trimStart_blanks_append hg.1 rest
    rw [e]
    rcases mem_readings_cons.mp h with ⟨written, tail, more, hw, rfl, _, rfl⟩ | ⟨ho, more, hm, rfl⟩
    · have hp := startsPlain_of_writtenAs (Pattern.isSolid_cons.mp hs).1 hw
      rwa [trimStart_of_startsPlain (startsPlain_append hp tail)]
    · refine mem_readings_cons.mpr (.inr ⟨ho, more, ?_, rfl⟩)
      cases parts with
      | nil =>
        obtain ⟨ht, rfl⟩ := mem_readings_nil.mp hm
        exact mem_readings_nil.mpr ⟨by rw [show rest = [] from ht]; rfl, rfl⟩
      | cons next parts =>
        have e : skipBlanks (next :: parts) (trimStart rest) = skipBlanks (next :: parts) rest :=
          trimStart_trimStart rest
        rwa [e]

/-- **The readings are the layouts.** -/
theorem mem_readings_iff_fits {p : Pattern} (hs : p.isSolid = true) {text : Text}
    {reading : Reading} : reading ∈ readings p text ↔ Fits p text reading := by
  refine ⟨fits_of_mem_readings, fun h => ?_⟩
  induction h with
  | done => exact mem_readings_nil.mpr ⟨rfl, rfl⟩
  | word hw hg _ ih =>
    have hs' := (Pattern.isSolid_cons.mp hs).2
    exact mem_readings_cons.mpr
      (.inl ⟨_, _, _, hw, rfl, mem_readings_skipBlanks hs' hg (ih hs'), rfl⟩)
  | skip ho hg _ ih =>
    have hs' := (Pattern.isSolid_cons.mp hs).2
    exact mem_readings_cons.mpr (.inr ⟨ho, _, mem_readings_skipBlanks hs' hg (ih hs'), rfl⟩)

/-- The front of a text that is laid out with a word in front. -/
theorem trimStart_word {words : List Text} {written : Text}
    (hs : ∀ word ∈ words, startsPlain word = true) (hw : WrittenAs words written) (rest : Text) :
    trimStart (written ++ rest) = written ++ rest :=
  trimStart_of_startsPlain (startsPlain_append (startsPlain_of_writtenAs hs hw) rest)

/-! ### Changes that a pattern does not see -/

/-- A change of characters that leaves a text as blank and as much in the
letters of a pattern's words as it is. -/
structure Pattern.Overlooks (p : Pattern) (f : Char → Char) : Prop where
  isBlank : ∀ c, isBlank (f c) = isBlank c
  letter : ∀ part ∈ p, ∀ word ∈ part.words, ∀ u ∈ word, ∀ c,
    foldCase (f c) = foldCase u ↔ foldCase c = foldCase u

theorem sameLetters_map {f : Char → Char} : ∀ {text word : Text},
    (∀ u ∈ word, ∀ c, foldCase (f c) = foldCase u ↔ foldCase c = foldCase u) →
      sameLetters (text.map f) word = sameLetters text word
  | [], _, _ => rfl
  | _ :: _, [], _ => rfl
  | c :: text, u :: word, hf => by
    obtain ⟨hu, hword⟩ := List.forall_mem_cons.mp hf
    have ih : sameLetters (text.map f) word = sameLetters text word := sameLetters_map hword
    rw [Bool.eq_iff_iff, sameLetters_iff, sameLetters_iff] at ih ⊢
    simp only [List.map_cons, List.cons.injEq, hu c, ih]

theorem readWord?_map {f : Char → Char} {word : Text}
    (hf : ∀ u ∈ word, ∀ c, foldCase (f c) = foldCase u ↔ foldCase c = foldCase u) (text : Text) :
    readWord? (text.map f) word =
      (readWord? text word).map fun read => (read.1.map f, read.2.map f) := by
  rw [readWord?, readWord?, ← List.map_take, ← List.map_drop, sameLetters_map hf]
  split <;> rfl

/-- The readings of a changed text are its readings changed alike. -/
theorem readings_map {f : Char → Char} : ∀ {p : Pattern}, p.Overlooks f → ∀ text,
    readings p (text.map f) = (readings p text).map (List.map (Option.map (List.map f)))
  | [], _, text => by
    cases text <;> rfl
  | part :: parts, h, text => by
    obtain ⟨hwords, hparts⟩ := List.forall_mem_cons.mp h.letter
    have hblanks : ∀ rest : Text,
        skipBlanks parts (rest.map f) = (skipBlanks parts rest).map f := by
      intro rest
      rw [skipBlanks, skipBlanks, trimStart_map h.isBlank]
      split <;> rfl
    have hmore : ∀ (read : Option Text) (rest : Text),
        (readings parts (skipBlanks parts (rest.map f))).map (read.map (List.map f) :: ·) =
          ((readings parts (skipBlanks parts rest)).map (read :: ·)).map
            (List.map (Option.map (List.map f))) := by
      intro read rest
      rw [hblanks, readings_map ⟨h.isBlank, hparts⟩, List.map_map, List.map_map]
      rfl
    have hread : part.words.filterMap (readWord? (text.map f)) =
        (part.words.filterMap (readWord? text)).map fun read => (read.1.map f, read.2.map f) := by
      rw [List.map_filterMap]
      exact List.filterMap_congr fun word hword => readWord?_map (hwords word hword) text
    have hskip := hmore none text
    rw [readings, readings, List.map_append, List.map_flatMap]
    congr 1
    · rw [hread, List.flatMap_map]
      exact List.flatMap_congr fun read _ => hmore (some read.1) read.2
    · split
      · exact hskip
      · rfl

/-! ### First words -/

/-- The words that may stand first, each with the parts that follow it. -/
def Pattern.firsts : Pattern → List (Text × Pattern)
  | [] => []
  | part :: parts => part.words.map (·, parts) ++ if part.optional then firsts parts else []

/-- Whether a text can start with both words. -/
def overlap (a b : Text) : Bool :=
  (a.map foldCase).isPrefixOf (b.map foldCase) || (b.map foldCase).isPrefixOf (a.map foldCase)

theorem overlap_of_append_eq {a b x y u v : Text} (ha : sameLetters u a = true)
    (hb : sameLetters v b = true) (h : u ++ x = v ++ y) : overlap a b = true := by
  have hu : a.map foldCase <+: (u ++ x).map foldCase := by
    rw [← sameLetters_iff.mp ha]
    exact (List.prefix_append u x).map foldCase
  have hv : b.map foldCase <+: (u ++ x).map foldCase := by
    rw [← sameLetters_iff.mp hb, h]
    exact (List.prefix_append v y).map foldCase
  simpa [overlap] using List.prefix_or_prefix_of_prefix hu hv

theorem Pattern.isSolid_of_mem_firsts : ∀ {p following : Pattern} {word : Text},
    p.isSolid = true → (word, following) ∈ p.firsts →
      startsPlain word = true ∧ following.isSolid = true
  | [], _, _, _, h => by simp [firsts] at h
  | part :: parts, following, word, hs, h => by
    obtain ⟨hw, hs'⟩ := isSolid_cons.mp hs
    rw [firsts, List.mem_append] at h
    rcases h with h | h
    · obtain ⟨w, hm, e⟩ := List.mem_map.mp h
      cases e
      exact ⟨hw word hm, hs'⟩
    · split at h
      · exact isSolid_of_mem_firsts hs' h
      · cases h

/-- A text that is more than blanks starts, after them, with a first word. -/
theorem Fits.exists_first {p : Pattern} {text : Text} {reading : Reading}
    (h : Fits p text reading) (hs : p.isSolid = true) (ht : trimStart text ≠ []) :
    ∃ word following written blanks rest more, (word, following) ∈ p.firsts ∧
      sameLetters written word = true ∧ AllBlank blanks ∧
      trimStart text = written ++ (blanks ++ rest) ∧ Fits following rest more := by
  induction h with
  | done => exact absurd rfl ht
  | @word part parts written blanks rest more hw hg h _ =>
    have hp := startsPlain_of_writtenAs (Pattern.isSolid_cons.mp hs).1 hw
    obtain ⟨word, hm, hl⟩ := hw
    refine ⟨word, parts, written, blanks, rest, more, ?_, hl, hg.1, ?_, h⟩
    · rw [Pattern.firsts, List.mem_append]
      exact .inl (List.mem_map.mpr ⟨word, hm, rfl⟩)
    · exact trimStart_of_startsPlain (startsPlain_append hp _)
  | @skip part parts blanks rest more ho hg _ ih =>
    rw [trimStart_blanks_append hg.1] at ht ⊢
    obtain ⟨word, following, written, gap, tail, more', hm, hl, hb, he, hf⟩ :=
      ih (Pattern.isSolid_cons.mp hs).2 ht
    refine ⟨word, following, written, gap, tail, more', ?_, hl, hb, he, hf⟩
    rw [Pattern.firsts, List.mem_append, if_pos ho]
    exact .inr hm

/-- A first word of the pattern overlaps with any word the text starts with. -/
theorem Fits.exists_overlap {p : Pattern} {text : Text} {reading : Reading}
    (h : Fits p text reading) (hs : p.isSolid = true) {word written rest : Text}
    (hl : sameLetters written word = true) (hp : startsPlain written = true)
    (ht : trimStart text = written ++ rest) : ∃ first ∈ p.firsts, overlap word first.1 = true := by
  have hne : trimStart text ≠ [] := by
    rw [ht]
    exact append_ne_nil_of_startsPlain hp rest
  obtain ⟨first, following, written', _, _, _, hm, hl', _, ht', _⟩ := h.exists_first hs hne
  exact ⟨(first, following), hm, overlap_of_append_eq hl hl' (ht.symm.trans ht')⟩

/-! ### Unambiguous patterns -/

/-- Whether a text can be laid out in one way only, as the words tell it: no
two words of a part overlap, unless the part is the last, and no word of a part
that may be left out overlaps with one that may stand there then. -/
def Pattern.isUnambiguous : Pattern → Bool
  | [] => true
  | part :: parts =>
    (parts.isEmpty || part.words.all fun a => part.words.all fun b => a == b || !overlap a b) &&
      (!part.optional ||
        part.words.all fun a => (firsts parts).all fun first => !overlap a first.1) &&
      isUnambiguous parts

theorem Pattern.isUnambiguous_cons {part : Part} {parts : Pattern} :
    isUnambiguous (part :: parts) = true ↔
      (parts = [] ∨ ∀ a ∈ part.words, ∀ b ∈ part.words, a = b ∨ overlap a b = false) ∧
      (part.optional = true → ∀ a ∈ part.words, ∀ first ∈ firsts parts, overlap a first.1 = false) ∧
      isUnambiguous parts = true := by
  simp only [isUnambiguous, Bool.and_eq_true, Bool.or_eq_true, List.isEmpty_iff,
    List.all_eq_true, beq_iff_eq, Bool.not_eq_true', and_assoc]
  cases part.optional <;> simp

/-- A text does not start with a word of a part that is left out. -/
theorem Fits.false_of_skipped {part : Part} {parts : Pattern} {written tail rest : Text}
    {more : Reading} (h : Fits parts rest more) (hs : Pattern.isSolid (part :: parts) = true)
    (hu : Pattern.isUnambiguous (part :: parts) = true) (ho : part.optional = true)
    (hw : WrittenAs part.words written) (ht : trimStart rest = written ++ tail) : False := by
  obtain ⟨hsw, hs'⟩ := Pattern.isSolid_cons.mp hs
  have hp := startsPlain_of_writtenAs hsw hw
  obtain ⟨a, ha, hl⟩ := hw
  obtain ⟨first, hf, hov⟩ := h.exists_overlap hs' hl hp ht
  rw [(Pattern.isUnambiguous_cons.mp hu).2.1 ho a ha first hf] at hov
  cases hov

/-- **An unambiguous pattern lays out a text in one way.** -/
theorem Fits.reading_unique {p : Pattern} {text : Text} {reading : Reading}
    (h : Fits p text reading) (hs : p.isSolid = true) (hu : p.isUnambiguous = true) :
    ∀ {text' : Text} {reading' : Reading}, Fits p text' reading' →
      trimStart text = trimStart text' → reading = reading' := by
  induction h with
  | done =>
    intro text' reading' h' _
    cases h'
    rfl
  | @word part parts written blanks rest more hw hg h ih =>
    obtain ⟨hsw, hs'⟩ := Pattern.isSolid_cons.mp hs
    obtain ⟨hwords, _, hu'⟩ := Pattern.isUnambiguous_cons.mp hu
    intro text' reading' h' ht
    rw [trimStart_word hsw hw] at ht
    cases h' with
    | @word _ _ written' blanks' rest' more' hw' hg' h' =>
      rw [trimStart_word hsw hw'] at ht
      rcases hwords with rfl | hwords
      · -- the last word is the whole text
        cases h
        cases h'
        rw [hg.2 rfl, hg'.2 rfl] at ht
        simpa using ht
      · obtain ⟨a, ha, hla⟩ := hw
        obtain ⟨b, hb, hlb⟩ := hw'
        have hab : a = b := by
          rcases hwords a ha b hb with hab | hab
          · exact hab
          · rw [overlap_of_append_eq hla hlb ht] at hab
            cases hab
        have hlen : written.length = written'.length := by
          rw [length_eq_of_sameLetters hla, hab, length_eq_of_sameLetters hlb]
        obtain ⟨rfl, hrest⟩ := List.append_inj ht hlen
        have ht' : trimStart rest = trimStart rest' := by
          rw [← trimStart_blanks_append hg.1, hrest, trimStart_blanks_append hg'.1]
        rw [ih hs' hu' h' ht']
    | skip ho hg' h' =>
      rw [trimStart_blanks_append hg'.1] at ht
      exact (h'.false_of_skipped hs hu ho hw ht.symm).elim
  | skip ho hg h ih =>
    obtain ⟨hsw, hs'⟩ := Pattern.isSolid_cons.mp hs
    intro text' reading' h' ht
    rw [trimStart_blanks_append hg.1] at ht
    cases h' with
    | word hw' hg' h' =>
      rw [trimStart_word hsw hw'] at ht
      exact (h.false_of_skipped hs hu ho hw' ht).elim
    | skip _ hg' h' =>
      rw [trimStart_blanks_append hg'.1] at ht
      rw [ih hs' (Pattern.isUnambiguous_cons.mp hu).2.2 h' ht]

/-! ### Patterns apart -/

/-- Whether two patterns have no text in common, as the words tell it: a first
word of the one and a first word of the other have the same letters and what
follows them is apart, or they do not overlap. -/
def Pattern.isApart : Pattern → Pattern → Bool
  | [], q => q.any fun part => !part.optional
  | part :: parts, q =>
    (part.words.all fun a => q.firsts.all fun first =>
      if sameLetters a first.1 then isApart parts first.2 else !overlap a first.1) &&
      (!part.optional || isApart parts q)

/-- A pattern with a part that has to be there lays out more than blanks. -/
theorem Fits.trimStart_ne_nil {p : Pattern} {text : Text} {reading : Reading}
    (h : Fits p text reading) (hs : p.isSolid = true)
    (hr : (p.any fun part => !part.optional) = true) : trimStart text ≠ [] := by
  induction h with
  | done => simp at hr
  | word hw hg h _ =>
    obtain ⟨hsw, _⟩ := Pattern.isSolid_cons.mp hs
    rw [trimStart_word hsw hw]
    exact append_ne_nil_of_startsPlain (startsPlain_of_writtenAs hsw hw) _
  | skip ho hg _ ih =>
    rw [trimStart_blanks_append hg.1]
    exact ih (Pattern.isSolid_cons.mp hs).2 (by simpa [ho] using hr)

/-- **Patterns apart have no text in common.** -/
theorem Fits.false_of_apart {p : Pattern} {text : Text} {reading : Reading}
    (h : Fits p text reading) (hs : p.isSolid = true) :
    ∀ {q : Pattern} {text' : Text} {reading' : Reading}, p.isApart q = true → q.isSolid = true →
      Fits q text' reading' → trimStart text = trimStart text' → False := by
  induction h with
  | done =>
    intro q text' reading' ha hq h' ht
    exact h'.trimStart_ne_nil hq ha ht.symm
  | @word part parts written blanks rest more hw hg h ih =>
    obtain ⟨hsw, hs'⟩ := Pattern.isSolid_cons.mp hs
    intro q text' reading' ha hq h' ht
    have hp := startsPlain_of_writtenAs hsw hw
    rw [trimStart_word hsw hw] at ht
    have hne : trimStart text' ≠ [] := by
      rw [← ht]
      exact append_ne_nil_of_startsPlain hp _
    obtain ⟨first, following, written', blanks', rest', more', hm, hl', hb', ht', h'⟩ :=
      h'.exists_first hq hne
    obtain ⟨word, hword, hl⟩ := hw
    have e := ht.trans ht'
    simp only [Pattern.isApart, Bool.and_eq_true, List.all_eq_true] at ha
    have hstep := ha.1 word hword (first, following) hm
    split at hstep
    · rename_i hsame
      have hlen : written.length = written'.length := by
        rw [length_eq_of_sameLetters hl, length_eq_of_sameLetters hsame,
          length_eq_of_sameLetters hl']
      have hrest := (List.append_inj e hlen).2
      refine ih hs' hstep (Pattern.isSolid_of_mem_firsts hq hm).2 h' ?_
      rw [← trimStart_blanks_append hg.1, hrest, trimStart_blanks_append hb']
    · rw [overlap_of_append_eq hl hl' e] at hstep
      cases hstep
  | skip ho hg _ ih =>
    intro q text' reading' ha hq h' ht
    rw [trimStart_blanks_append hg.1] at ht
    simp only [Pattern.isApart, Bool.and_eq_true, Bool.or_eq_true, ho] at ha
    exact ih (Pattern.isSolid_cons.mp hs).2 (by simpa using ha.2) hq h' ht

end TimePhrase
