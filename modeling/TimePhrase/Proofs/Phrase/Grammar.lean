/-
# The grammars of the six recognizers

`Phrase` says what each recognizer understands, without the patterns and the
search in them: which words stand in which order, blanks between them, and
what the whole means. A word is a name in any case of its ASCII letters
(`Spells`); only the K of an uncaptured `WEEK` may be the Kelvin sign.

The vocabularies find the meaning of a word just if it is spelled as a name of
it (`Vocabulary.lookup?_eq_some_iff`).

Key definitions: `Spells`, `monthSpellings`, `Linked`, `Phrase`.
Key theorems: `Vocabulary.lookup?_eq_some_iff`, `months_lookup?`,
`writtenAs_week`.
-/
import TimePhrase.Proofs.Phrase.Readings
import TimePhrase.Command.Report

namespace TimePhrase

/-! ### Words -/

/-- A text that is a name in some case of its ASCII letters. -/
def Spells (written name : Text) : Prop := asciiUpper written = asciiUpper name

/-- The spellings of a month: its name, but for June and July also the first
three letters of it, and for September the first four. These are 22 words, as
the short form of May is its name. -/
def monthSpellings (month : Nat) : List Text :=
  let name := (monthName month).toList
  name :: (if month = 6 ∨ month = 7 then [] else [name.take 3]) ++
    if month = 9 then [name.take 4] else []

/-- A text that is `WEEK` in some case, with a K or a Kelvin sign. -/
def SpellsWeek (written : Text) : Prop :=
  Spells written "WEEK".toList ∨
    ∃ front, written = front ++ ['\u212a'] ∧ Spells front "WEE".toList

/-- A text that ties a unit to the container at its end: `OF` or `IN`, and an
article or none. -/
inductive Linked (container : Text) : Text → Prop
  | bare {l b : Text} (hl : Spells l "OF".toList ∨ Spells l "IN".toList) (hb : AllBlank b) :
      Linked container (l ++ (b ++ container))
  | article {l b1 a b2 : Text} (hl : Spells l "OF".toList ∨ Spells l "IN".toList)
      (h1 : AllBlank b1) (ha : Spells a "THE".toList) (h2 : AllBlank b2) :
      Linked container (l ++ (b1 ++ (a ++ (b2 ++ container))))

/-- What is a phrase of a recognizer, with its meaning. -/
inductive Phrase : Recognizer → Text → Capture → Prop
  | near {word : NearWord} {w : Text} (hw : Spells w word.name.toList) :
      Phrase .nearTime w (.near word)
  | bareWeekday {weekday : Weekday} {b d : Text} (hb : AllBlank b)
      (hd : Spells d weekday.name.toList) : Phrase .dayOfWeek (b ++ d) (.dayOfWeek none weekday)
  | weekday {qualifier : Qualifier} {weekday : Weekday} {q b d : Text}
      (hq : Spells q qualifier.name.toList) (hb : AllBlank b)
      (hd : Spells d weekday.name.toList) :
      Phrase .dayOfWeek (q ++ (b ++ d)) (.dayOfWeek (some qualifier) weekday)
  | changeUnit {direction : Direction} {unit : TimeUnit} {d b u : Text}
      (hd : Spells d direction.name.toList) (hb : AllBlank b) (hu : Spells u unit.name.toList) :
      Phrase .changeUnit (d ++ (b ++ u)) (.changeUnit direction unit)
  | bareMonth {number : UInt32} {name b m : Text} (hn : 1 ≤ number.toNat ∧ number.toNat ≤ 12)
      (hb : AllBlank b) (hname : name ∈ monthSpellings number.toNat) (hm : Spells m name) :
      Phrase .month (b ++ m) (.month none number)
  | month {qualifier : Qualifier} {number : UInt32} {name q b m : Text}
      (hn : 1 ≤ number.toNat ∧ number.toNat ≤ 12) (hq : Spells q qualifier.name.toList)
      (hb : AllBlank b) (hname : name ∈ monthSpellings number.toNat) (hm : Spells m name) :
      Phrase .month (q ++ (b ++ m)) (.month (some qualifier) number)
  | firstLastWeek {edge : Edge} {container : TimeUnit} {e b1 w b2 c tail : Text}
      (he : Spells e edge.name.toList) (h1 : AllBlank b1) (hw : SpellsWeek w) (h2 : AllBlank b2)
      (ht : Linked c tail) (hc : Spells c container.name.toList)
      (hu : container = .month ∨ container = .year) :
      Phrase .firstLastWeek (e ++ (b1 ++ (w ++ (b2 ++ tail)))) (.firstLastWeek edge container)
  | firstLastUnit {edge : Edge} {unit container : TimeUnit} {e b1 u b2 c tail : Text}
      (he : Spells e edge.name.toList) (h1 : AllBlank b1) (hu : Spells u unit.name.toList)
      (h2 : AllBlank b2) (ht : Linked c tail) (hc : Spells c container.name.toList)
      (hunit : unit ≠ .week ∧ unit ≠ .year) (hcontainer : container ≠ .millisecond)
      (hfiner : unit.isFinerThan container = true) :
      Phrase .firstLastUnit (e ++ (b1 ++ (u ++ (b2 ++ tail)))) (.firstLastUnit edge unit container)

/-! ### Vocabularies -/

namespace Vocabulary

theorem mem_of_lookup? {α : Type} {v : Vocabulary α} {written : Text} {a : α}
    (h : v.lookup? written = some a) : (asciiUpper written, a) ∈ v := by
  obtain ⟨_, _, hl, _⟩ := List.lookup_eq_some_iff.mp h
  simp [hl]

/-- A vocabulary of names finds exactly what is spelled as they are. -/
theorem lookup?_eq_some_iff {α : Type} {v : Vocabulary α} (name : α → Text)
    (hv : ∀ entry ∈ v, entry.1 = asciiUpper (name entry.2))
    (hname : ∀ a, v.lookup (asciiUpper (name a)) = some a) {written : Text} {a : α} :
    v.lookup? written = some a ↔ Spells written (name a) := by
  constructor
  · intro h
    exact hv _ (mem_of_lookup? h)
  · intro h
    rw [lookup?, show asciiUpper written = asciiUpper (name a) from h, hname]

theorem writtenAs_only {α : Type} {v : Vocabulary α} {test : α → Bool} {written : Text} {a : α}
    (h : v.lookup? written = some a) (ha : test a = true) :
    WrittenAs (v.only test).words written := by
  refine ⟨asciiUpper written, ?_, sameLetters_asciiUpper written⟩
  exact List.mem_map.mpr ⟨_, List.mem_filter.mpr ⟨mem_of_lookup? h, ha⟩, rfl⟩

theorem writtenAs {α : Type} {v : Vocabulary α} {written : Text} {a : α}
    (h : v.lookup? written = some a) : WrittenAs v.words written :=
  ⟨asciiUpper written, List.mem_map.mpr ⟨_, mem_of_lookup? h, rfl⟩, sameLetters_asciiUpper written⟩

/-- What is written as a word that passes a test and is found in the
vocabulary, is found with a meaning that passes the test. -/
theorem test_of_writtenAs_only {α : Type} {v : Vocabulary α} {test : α → Bool} {written : Text}
    {a : α} (hv : ∀ x ∈ v, ∀ y ∈ v, sameLetters x.1 y.1 = true → x.2 = y.2)
    (hw : WrittenAs (v.only test).words written) (h : v.lookup? written = some a) :
    test a = true := by
  obtain ⟨word, hword, hl⟩ := hw
  obtain ⟨entry, hentry, rfl⟩ := List.mem_map.mp hword
  obtain ⟨hm, htest⟩ := List.mem_filter.mp hentry
  have hs : sameLetters (asciiUpper written) entry.1 = true := by
    rw [sameLetters_iff, ← sameLetters_iff.mp (sameLetters_asciiUpper written),
      sameLetters_iff.mp hl]
  have ha : a = entry.2 := hv _ (mem_of_lookup? h) entry hm hs
  rwa [ha]

end Vocabulary

theorem nearWords_lookup? {w : Text} {word : NearWord} :
    nearWords.lookup? w = some word ↔ Spells w word.name.toList :=
  Vocabulary.lookup?_eq_some_iff (fun x : NearWord => x.name.toList) (by decide)
    (by rintro ⟨⟩ <;> decide)

theorem qualifiers_lookup? {w : Text} {qualifier : Qualifier} :
    qualifiers.lookup? w = some qualifier ↔ Spells w qualifier.name.toList :=
  Vocabulary.lookup?_eq_some_iff (fun x : Qualifier => x.name.toList) (by decide)
    (by rintro ⟨⟩ <;> decide)

theorem directions_lookup? {w : Text} {direction : Direction} :
    directions.lookup? w = some direction ↔ Spells w direction.name.toList :=
  Vocabulary.lookup?_eq_some_iff (fun x : Direction => x.name.toList) (by decide)
    (by rintro ⟨⟩ <;> decide)

theorem edges_lookup? {w : Text} {edge : Edge} :
    edges.lookup? w = some edge ↔ Spells w edge.name.toList :=
  Vocabulary.lookup?_eq_some_iff (fun x : Edge => x.name.toList) (by decide)
    (by rintro ⟨⟩ <;> decide)

theorem weekdays_lookup? {w : Text} {weekday : Weekday} :
    weekdays.lookup? w = some weekday ↔ Spells w weekday.name.toList :=
  Vocabulary.lookup?_eq_some_iff (fun x : Weekday => x.name.toList) (by decide)
    (by rintro ⟨⟩ <;> decide)

theorem units_lookup? {w : Text} {unit : TimeUnit} :
    units.lookup? w = some unit ↔ Spells w unit.name.toList :=
  Vocabulary.lookup?_eq_some_iff (fun x : TimeUnit => x.name.toList) (by decide)
    (by rintro ⟨⟩ <;> decide)

theorem units_distinct : ∀ x ∈ units, ∀ y ∈ units, sameLetters x.1 y.1 = true → x.2 = y.2 := by
  decide

theorem months_spelled : ∀ entry ∈ months, (1 ≤ entry.2.toNat ∧ entry.2.toNat ≤ 12) ∧
    ∃ name ∈ monthSpellings entry.2.toNat, entry.1 = asciiUpper name := by
  decide

theorem lookup_monthSpellings : ∀ n, n ≤ 12 → 1 ≤ n → ∀ name ∈ monthSpellings n,
    months.lookup (asciiUpper name) = some (UInt32.ofNat n) := by
  decide

theorem months_lookup? {w : Text} {number : UInt32} :
    months.lookup? w = some number ↔ (1 ≤ number.toNat ∧ number.toNat ≤ 12) ∧
      ∃ name ∈ monthSpellings number.toNat, Spells w name := by
  constructor
  · intro h
    exact months_spelled _ (Vocabulary.mem_of_lookup? h)
  · rintro ⟨⟨h1, h2⟩, name, hname, h⟩
    rw [Vocabulary.lookup?, show asciiUpper w = asciiUpper name from h,
      lookup_monthSpellings _ h2 h1 name hname, UInt32.ofNat_toNat]

/-! ### Words of a pattern -/

/-- What is written as a word without S and K is spelled as it is. -/
theorem writtenAs_iff {words : List Text} {written : Text}
    (hw : ∀ word ∈ words, ∀ u ∈ word, u.isUpper = true ∧ u ≠ 'S' ∧ u ≠ 'K') :
    WrittenAs words written ↔ asciiUpper written ∈ words := by
  constructor
  · rintro ⟨word, hword, hl⟩
    rwa [asciiUpper_eq_of_sameLetters hl (fun u hu => (hw word hword u hu).1)
      (.inr fun u hu => (hw word hword u hu).2)]
  · intro h
    exact ⟨asciiUpper written, h, sameLetters_asciiUpper written⟩

theorem writtenAs_connectors {w : Text} :
    WrittenAs Recognizer.connectors w ↔ Spells w "OF".toList ∨ Spells w "IN".toList := by
  rw [writtenAs_iff (by simp [Recognizer.connectors])]
  exact List.mem_pair

theorem writtenAs_articles {w : Text} :
    WrittenAs Recognizer.articles w ↔ Spells w "THE".toList := by
  rw [writtenAs_iff (by simp [Recognizer.articles])]
  exact List.mem_singleton

/-- `WEEK` ends in a letter that folds as the Kelvin sign does, and has no
other such letter. -/
theorem writtenAs_week {w : Text} :
    WrittenAs (units.only (· = .week)).words w ↔ SpellsWeek w := by
  have hwords : (units.only (· = .week)).words = ["WEE".toList ++ ['K']] := by decide
  rw [hwords]
  constructor
  · rintro ⟨word, hword, hl⟩
    rw [List.mem_singleton.mp hword, sameLetters_iff, List.map_append,
      List.map_eq_append_iff] at hl
    obtain ⟨front, last, rfl, hfront, hlast⟩ := hl
    obtain ⟨c, rfl, hc⟩ := List.map_eq_singleton_iff.mp hlast
    have hwee : asciiUpper front = "WEE".toList :=
      asciiUpper_eq_of_sameLetters (sameLetters_iff.mpr hfront) (by simp) (.inr (by simp))
    rcases toUpper_eq_or_of_foldCase_eq (by decide) hc with hk | ⟨_, hs⟩ | ⟨rfl, _⟩
    · left
      show asciiUpper (front ++ [c]) = asciiUpper "WEEK".toList
      rw [asciiUpper, List.map_append, ← asciiUpper, hwee, List.map_singleton, hk]
      decide
    · exact absurd hs (by decide)
    · exact .inr ⟨front, rfl, hwee⟩
  · rintro (h | ⟨front, rfl, h⟩)
    · refine ⟨_, List.mem_singleton.mpr rfl, ?_⟩
      rw [sameLetters_iff, sameLetters_iff.mp (sameLetters_asciiUpper w), h]
      decide
    · refine ⟨_, List.mem_singleton.mpr rfl, ?_⟩
      rw [sameLetters_iff, List.map_append, List.map_append,
        sameLetters_iff.mp (sameLetters_asciiUpper front), h]
      decide

end TimePhrase
