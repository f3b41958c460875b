/-
# The scan rules out no phrase

A recognizer is tried only on the phrases in its bucket. Each phrase of a
recognizer has, in some case, a word that puts it there, and in a normalized
phrase the word stands in upper case, as the scan looks for it
(`holds_of_phrase`). So a recognizer that gives a capture has been left to be
tried (`admits_of_recognize`).

Key theorems: `occurs_iff`, `holds_of_phrase`, `admits_of_recognize`.
-/
import TimePhrase.Proofs.Phrase.Recognize

namespace TimePhrase

/-! ### Finding a word -/

theorem occurs_iff {word : Text} : ∀ {text : Text}, occurs word text = true ↔ word <:+: text
  | [] => by
    rw [occurs, List.isEmpty_iff, List.infix_nil]
  | c :: text => by
    rw [occurs, Bool.or_eq_true, List.isPrefixOf_iff_prefix, occurs_iff, List.infix_cons_iff]

/-- In a text in upper case the parts are in upper case too. -/
theorem asciiUpper_append_eq {a b : Text} :
    asciiUpper (a ++ b) = a ++ b ↔ asciiUpper a = a ∧ asciiUpper b = b := by
  have hlen : (asciiUpper a).length = a.length := List.length_map _
  constructor
  · intro h
    rw [asciiUpper, List.map_append] at h
    exact List.append_inj h hlen
  · rintro ⟨ha, hb⟩
    rw [asciiUpper, List.map_append]
    exact congrArg₂ (· ++ ·) ha hb

theorem nearWords_complete (word : NearWord) :
    asciiUpper word.name.toList ∈ nearWords.words := by
  cases word <;> decide

theorem directions_complete (direction : Direction) :
    asciiUpper direction.name.toList ∈ directions.words := by
  cases direction <;> decide

theorem edges_complete (edge : Edge) : asciiUpper edge.name.toList ∈ edges.words := by
  cases edge <;> decide

theorem day_suffix_weekday (weekday : Weekday) :
    "DAY".toList <:+ asciiUpper weekday.name.toList := by
  cases weekday <;> decide

theorem monthStems_complete : ∀ n, n ≤ 12 → 1 ≤ n → ∀ name ∈ monthSpellings n,
    ∃ stem ∈ monthStems, stem <+: asciiUpper name := by
  decide

/-! ### The bucket of a phrase -/

theorem holds_of_starts {words : List Text} {name w rest : Text} (hw : Spells w name)
    (hname : asciiUpper name ∈ words) (hup : asciiUpper (w ++ rest) = w ++ rest) :
    words.any (·.isPrefixOf (w ++ rest)) = true := by
  have hword : w = asciiUpper name := (asciiUpper_append_eq.mp hup).1.symm.trans hw
  rw [List.any_eq_true]
  refine ⟨w, ?_, List.isPrefixOf_iff_prefix.mpr (List.prefix_append w rest)⟩
  rwa [hword]

theorem holds_of_ends_weekday {front d : Text} {weekday : Weekday}
    (hd : Spells d weekday.name.toList) (hup : asciiUpper (front ++ d) = front ++ d) :
    Bucket.weekdayish.holds (front ++ d) = true := by
  have hname : d = asciiUpper weekday.name.toList :=
    (asciiUpper_append_eq.mp hup).2.symm.trans hd
  have hday : "DAY".toList <:+ d := by
    rw [hname]
    exact day_suffix_weekday weekday
  exact occurs_iff.mpr (hday.trans (List.suffix_append front d)).isInfix

theorem holds_of_ends_month {front m name : Text} {number : Nat}
    (hn : 1 ≤ number ∧ number ≤ 12) (hname : name ∈ monthSpellings number) (hm : Spells m name)
    (hup : asciiUpper (front ++ m) = front ++ m) :
    Bucket.monthish.holds (front ++ m) = true := by
  have hword : m = asciiUpper name := (asciiUpper_append_eq.mp hup).2.symm.trans hm
  obtain ⟨stem, hstem, hp⟩ := monthStems_complete number hn.2 hn.1 name hname
  rw [← hword] at hp
  show monthStems.any (occurs · (front ++ m)) = true
  rw [List.any_eq_true]
  exact ⟨stem, hstem, occurs_iff.mpr (hp.isInfix.trans (List.suffix_append front m).isInfix)⟩

/-- A phrase in upper case is in the bucket of its recognizer. -/
theorem holds_of_phrase {r : Recognizer} {text : Text} {c : Capture} (h : Phrase r text c)
    (hup : asciiUpper text = text) : r.bucket.holds text = true := by
  cases h with
  | @near word _ hw =>
    show nearWords.words.any (occurs · text) = true
    rw [List.any_eq_true]
    refine ⟨text, ?_, occurs_iff.mpr (List.infix_refl text)⟩
    rw [← hup, show asciiUpper text = asciiUpper word.name.toList from hw]
    exact nearWords_complete word
  | bareWeekday _ hd => exact holds_of_ends_weekday hd hup
  | weekday _ _ hd =>
    rw [← List.append_assoc] at hup ⊢
    exact holds_of_ends_weekday hd hup
  | @changeUnit direction _ _ _ _ hd => exact holds_of_starts hd (directions_complete direction) hup
  | bareMonth hn _ hname hm => exact holds_of_ends_month hn hname hm hup
  | month hn _ _ hname hm =>
    rw [← List.append_assoc] at hup ⊢
    exact holds_of_ends_month hn hname hm hup
  | @firstLastWeek edge _ _ _ _ _ _ _ he => exact holds_of_starts he (edges_complete edge) hup
  | @firstLastUnit edge _ _ _ _ _ _ _ _ he => exact holds_of_starts he (edges_complete edge) hup

theorem admits_scan (text : Text) (r : Recognizer) :
    admits (scan text) r = r.bucket.holds text := by
  have hall : r.bucket ∈ Bucket.all := by cases r <;> decide
  rw [admits, scan, List.contains_eq_mem, Bool.eq_iff_iff, decide_eq_true_eq, List.mem_filter]
  exact and_iff_right hall

/-- **The scan of a text in upper case leaves every recognizer to be tried
that gives a capture.** -/
theorem admits_of_recognize {r : Recognizer} {text : Text} {c : Capture}
    (h : r.recognize text = some c) (hup : asciiUpper text = text) :
    admits (scan text) r = true := by
  rw [admits_scan]
  exact holds_of_phrase (recognize_eq_some_iff.mp h) hup

end TimePhrase
