/-
# Letters, blanks and case

Folding, the ASCII upper case and the upper case of Unicode, seen together.
Folding does not see the case of an ASCII letter (`foldCase_toUpper`), and a
character that folds to a capital is that capital in some case, but for the
long s and the Kelvin sign (`toUpper_eq_or_of_foldCase_eq`). So two texts of
the same letters have their blanks at the same places (`isBlank_foldCase`).
What upper-casing leads to is told by its tables (`mem_upperChar_cases`), and a
normalized text has no lower-case letter of ASCII (`asciiUpper_normalize`).

Key definitions: `isForeign`, `startsPlain`.
Key theorems: `foldCase_toUpper`, `toUpper_eq_or_of_foldCase_eq`,
`startsPlain_of_sameLetters`, `trimStart_blanks_append`, `trimStart_map`,
`mem_upperChar_cases`, `asciiUpper_normalize`.
-/
import Mathlib
import TimePhrase.Phrase.Bucket

namespace TimePhrase

/-! ### One letter -/

theorem isBlank_eq_false_of_isAlpha {c : Char} (h : c.isAlpha = true) : isBlank c = false := by
  have hn : (65 ≤ c.toNat ∧ c.toNat ≤ 90) ∨ (97 ≤ c.toNat ∧ c.toNat ≤ 122) := by
    simpa [Char.isAlpha, Char.isUpper, Char.isLower, UInt32.le_iff_toNat_le] using h
  simp only [isBlank, Bool.or_eq_false_iff, Bool.and_eq_false_iff, decide_eq_false_iff_not,
    beq_eq_false_iff_ne]
  omega

theorem foldCase_of_isAlpha {c : Char} (h : c.isAlpha = true) : foldCase c = c.toLower := by
  have h1 : c ≠ '\u017f' := by
    rintro rfl
    simp at h
  have h2 : c ≠ '\u212a' := by
    rintro rfl
    simp at h
  rw [foldCase, if_neg h1, if_neg h2]

/-- Folding does not see the case of an ASCII letter. -/
theorem foldCase_toUpper (c : Char) : foldCase c.toUpper = foldCase c := by
  by_cases h : c.isLower = true
  · have ha : c.isAlpha = true := by simp [Char.isAlpha, h]
    rw [foldCase_of_isAlpha ha, foldCase_of_isAlpha (by rwa [Char.isAlpha_toUpper_eq_isAlpha]),
      Char.toLower_toUpper_eq_toLower]
  · rw [Char.toUpper_eq_of_not_isLower h]

theorem isBlank_foldCase (c : Char) : isBlank (foldCase c) = isBlank c := by
  by_cases h1 : c = '\u017f'
  · subst h1
    decide
  by_cases h2 : c = '\u212a'
  · subst h2
    decide
  rw [foldCase, if_neg h1, if_neg h2]
  by_cases h : c.isUpper = true
  · have ha : c.isAlpha = true := by simp [Char.isAlpha, h]
    rw [isBlank_eq_false_of_isAlpha ha,
      isBlank_eq_false_of_isAlpha (by rwa [Char.isAlpha_toLower_eq_isAlpha])]
  · rw [Char.toLower_eq_of_not_isUpper h]

/-- The letters beyond ASCII that fold as a letter of ASCII does: the long s
and the Kelvin sign. -/
def isForeign (c : Char) : Bool :=
  c = '\u017f' || c = '\u212a'

theorem isForeign_iff {c : Char} : isForeign c = true ↔ c = '\u017f' ∨ c = '\u212a' := by
  rw [isForeign, Bool.or_eq_true, decide_eq_true_eq, decide_eq_true_eq]

/-- What folds as a capital does is that capital in some case. The exceptions
are the long s and the Kelvin sign, which `Char.toUpper` leaves alone. -/
theorem toUpper_eq_or_of_foldCase_eq {c u : Char} (hu : u.isUpper = true)
    (h : foldCase c = foldCase u) :
    c.toUpper = u ∨ (c = '\u017f' ∧ u = 'S') ∨ (c = '\u212a' ∧ u = 'K') := by
  have hback : u.toLower.toUpper = u := by
    rw [Char.toUpper_toLower_eq_toUpper,
      Char.toUpper_eq_of_not_isLower (Char.not_isLower_of_isUpper hu)]
  have ha : u.isAlpha = true := by simp [Char.isAlpha, hu]
  rw [foldCase_of_isAlpha ha] at h
  unfold foldCase at h
  split at h
  · rename_i hc
    right; left
    exact ⟨hc, by rw [← hback, ← h]; decide⟩
  · split at h
    · rename_i hc
      right; right
      exact ⟨hc, by rw [← hback, ← h]; decide⟩
    · left
      rw [← hback, ← h, Char.toUpper_toLower_eq_toUpper]

/-! ### Texts of the same letters -/

theorem sameLetters_iff {a b : Text} :
    sameLetters a b = true ↔ a.map foldCase = b.map foldCase := by
  rw [sameLetters, beq_iff_eq]

theorem length_eq_of_sameLetters {a b : Text} (h : sameLetters a b = true) :
    a.length = b.length := by
  have := congrArg List.length (sameLetters_iff.mp h)
  rwa [List.length_map, List.length_map] at this

theorem sameLetters_asciiUpper (text : Text) : sameLetters text (asciiUpper text) = true := by
  rw [sameLetters_iff, asciiUpper, List.map_map]
  exact List.map_congr_left fun c _ => (foldCase_toUpper c).symm

/-- A text of the letters of a word is the word in some case, if no foreign
letter stands in it, or none can. -/
theorem asciiUpper_eq_of_sameLetters : ∀ {text word : Text}, sameLetters text word = true →
    (∀ u ∈ word, u.isUpper = true) →
    (∀ c ∈ text, isForeign c = false) ∨ (∀ u ∈ word, u ≠ 'S' ∧ u ≠ 'K') → asciiUpper text = word
  | [], [], _, _, _ => rfl
  | [], _ :: _, h, _, _ => by simp [sameLetters_iff] at h
  | _ :: _, [], h, _, _ => by simp [sameLetters_iff] at h
  | c :: text, u :: word, h, hw, hplain => by
    rw [sameLetters_iff, List.map_cons, List.map_cons, List.cons.injEq] at h
    rw [List.forall_mem_cons] at hw
    rw [List.forall_mem_cons, List.forall_mem_cons] at hplain
    have hrest : asciiUpper text = word := asciiUpper_eq_of_sameLetters
      (sameLetters_iff.mpr h.2) hw.2 (hplain.imp And.right And.right)
    have hc : c.toUpper = u := by
      rcases toUpper_eq_or_of_foldCase_eq hw.1 h.1 with hc | ⟨rfl, rfl⟩ | ⟨rfl, rfl⟩
      · exact hc
      · simp [isForeign] at hplain
      · simp [isForeign] at hplain
    rw [← hrest, ← hc]
    rfl

/-! ### Blanks at the front -/

/-- Whether a text starts with a character that is not blank. -/
def startsPlain (text : Text) : Bool :=
  text.head?.any fun c => !isBlank c

theorem startsPlain_of_sameLetters {a b : Text} (h : sameLetters a b = true) :
    startsPlain a = startsPlain b := by
  rw [sameLetters_iff] at h
  cases a with
  | nil => cases b with
    | nil => rfl
    | cons _ _ => simp at h
  | cons c a => cases b with
    | nil => simp at h
    | cons d b =>
      rw [List.map_cons, List.map_cons, List.cons.injEq] at h
      have : isBlank c = isBlank d := by rw [← isBlank_foldCase c, h.1, isBlank_foldCase]
      simp [startsPlain, this]

theorem startsPlain_append {a : Text} (h : startsPlain a = true) (b : Text) :
    startsPlain (a ++ b) = true := by
  cases a with
  | nil => simp [startsPlain] at h
  | cons c a => simpa [startsPlain] using h

theorem append_ne_nil_of_startsPlain {a : Text} (h : startsPlain a = true) (b : Text) :
    a ++ b ≠ [] := by
  cases a with
  | nil => simp [startsPlain] at h
  | cons c a => exact List.cons_ne_nil c _

theorem trimStart_of_startsPlain {text : Text} (h : startsPlain text = true) :
    trimStart text = text := by
  cases text with
  | nil => rfl
  | cons c text =>
    have hc : ¬ isBlank c = true := by simpa [startsPlain] using h
    exact List.dropWhile_cons_of_neg hc

/-- A text of blanks. -/
def AllBlank (text : Text) : Prop := ∀ c ∈ text, isBlank c = true

theorem AllBlank.append {a b : Text} (ha : AllBlank a) (hb : AllBlank b) : AllBlank (a ++ b) := by
  intro c hc
  rcases List.mem_append.mp hc with h | h
  · exact ha c h
  · exact hb c h

theorem trimStart_blanks_append {blanks : Text} (h : AllBlank blanks) (text : Text) :
    trimStart (blanks ++ text) = trimStart text :=
  List.dropWhile_append_of_pos h

/-- Blanks stay at the front if characters are changed but no blank. -/
theorem trimStart_map {f : Char → Char} (hf : ∀ c, isBlank (f c) = isBlank c) (text : Text) :
    trimStart (text.map f) = (trimStart text).map f := by
  have h : isBlank ∘ f = isBlank := funext hf
  rw [trimStart, List.dropWhile_map, h, trimStart]

theorem trimStart_trimStart (text : Text) : trimStart (trimStart text) = trimStart text :=
  List.dropWhile_idempotent _ _

/-- A text is some blanks and the rest. -/
theorem exists_blanks_append_trimStart (text : Text) :
    ∃ blanks, AllBlank blanks ∧ text = blanks ++ trimStart text :=
  ⟨text.takeWhile isBlank, fun _ hc => List.mem_takeWhile_imp hc,
    List.takeWhile_append_dropWhile.symm⟩

/-! ### Upper case -/

theorem toUpper_eq_self {c : Char} (h : c.toNat < 0x61 ∨ 0x7A < c.toNat) : c.toUpper = c := by
  apply Char.toUpper_eq_of_not_isLower
  simp only [Char.isLower, Bool.and_eq_true, decide_eq_true_eq, UInt32.le_iff_toNat_le]
  have ha : 'a'.val.toNat = 0x61 := rfl
  have hz : 'z'.val.toNat = 0x7A := rfl
  have hc : c.val.toNat = c.toNat := rfl
  omega

theorem toUpper_ofNat {n : Nat} (h : n < 0x61 ∨ 0x7A < n) :
    (Char.ofNat n).toUpper = Char.ofNat n := by
  apply toUpper_eq_self
  rw [Char.toNat_ofNat]
  split <;> omega

theorem upperExpansions_outside :
    ∀ entry ∈ upperExpansions, ∀ n ∈ entry.2, n < 0x61 ∨ 0x7A < n := by
  decide +kernel

theorem upperRuns_outside :
    ∀ run ∈ upperRuns, run.upper + (run.last - run.first) < 0x61 ∨ 0x7A < run.upper := by
  decide +kernel

/-- The upper case of a character is that of ASCII, or an expansion, or in a
run. -/
theorem mem_upperChar_cases {a c : Char} (h : c ∈ upperChar a) :
    (upperChar a = [a.toUpper] ∧ c = a.toUpper) ∨
      (∃ entry ∈ upperExpansions, ∃ n ∈ entry.2, c = Char.ofNat n) ∨
      ∃ run ∈ upperRuns, ∃ k, k ≤ run.last - run.first ∧ k % run.step = 0 ∧
        c = Char.ofNat (run.upper + k) := by
  unfold upperChar at h ⊢
  split at h
  · rename_i ha
    exact .inl ⟨if_pos ha, List.mem_singleton.mp h⟩
  rename_i ha
  split at h
  · rename_i expansion he
    obtain ⟨n, hn, rfl⟩ := List.mem_map.mp h
    obtain ⟨_, _, hl, _⟩ := List.lookup_eq_some_iff.mp he
    have hm : (a.toNat, expansion) ∈ upperExpansions := by simp [hl]
    exact .inr (.inl ⟨_, hm, n, hn, rfl⟩)
  · split at h
    · rename_i run hr
      have hh := List.find?_some hr
      simp only [UpperRun.holds, Bool.and_eq_true, decide_eq_true_eq, beq_iff_eq] at hh
      have hk : a.toNat - run.first ≤ run.last - run.first := Nat.sub_le_sub_right hh.1.2 _
      exact .inr (.inr ⟨run, List.mem_of_find?_eq_some hr, _, hk, hh.2, List.mem_singleton.mp h⟩)
    · have hself : a.toUpper = a := toUpper_eq_self (by omega)
      rw [hself]
      exact .inl ⟨if_neg ha, List.mem_singleton.mp h⟩

/-- No lower-case letter of ASCII comes out of upper-casing. -/
theorem toUpper_of_mem_upperChar {a c : Char} (h : c ∈ upperChar a) : c.toUpper = c := by
  rcases mem_upperChar_cases h with ⟨-, rfl⟩ | ⟨entry, hentry, n, hn, rfl⟩ | ⟨run, hrun, k, hk, -, rfl⟩
  · exact Char.toUpper_toUpper_eq_toUpper a
  · exact toUpper_ofNat (upperExpansions_outside entry hentry n hn)
  · have ho := upperRuns_outside run hrun
    exact toUpper_ofNat (by omega)

/-- A normalized text is in upper case as ASCII sees it. -/
theorem asciiUpper_normalize (phrase : Text) :
    asciiUpper (normalize phrase) = normalize phrase := by
  have h : ∀ c ∈ normalize phrase, c.toUpper = c := by
    intro c hc
    obtain ⟨_, _, hc⟩ := List.mem_flatMap.mp hc
    exact toUpper_of_mem_upperChar hc
  rw [asciiUpper, List.map_congr_left h, List.map_id']

end TimePhrase
