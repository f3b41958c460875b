/-
# Trimmed texts and full upper case

Trimming a text twice trims it once, and blanks added at its ends are trimmed
off again (`trim_blanks_append`). Upper-casing has the same two sides: what it
leads to has no other upper case (`upper_upper`), and the case of the ASCII
letters it starts from does not matter (`upper_asciiUpper`).

The two do not disturb each other. A character becomes blank in upper case only
if it was (`isBlank_of_mem_upperChar`), also where one character becomes
several, and none vanishes; so a trimmed text stays trimmed (`Trimmed.upper`).

Key definitions: `UpperRun.avoids`, `Trimmed`.
Key theorems: `upper_upper`, `upper_asciiUpper`, `isBlank_of_mem_upperChar`,
`trimmed_trim`, `trim_blanks_append`, `Trimmed.upper`.
-/
import TimePhrase.Proofs.Text.Trim

namespace TimePhrase

/-! ### What upper-casing leads to -/

/-- Whether a run leads to none of the characters `first`, `first + step`, … up
to `last`: they lie to one side of it, or have the other parity. -/
def UpperRun.avoids (run : UpperRun) (first last step : Nat) : Bool :=
  Nat.blt last run.upper || Nat.blt (run.upper + (run.last - run.first)) first ||
    ((run.step == 2 || run.first == run.last) && (step == 2 || first == last) &&
      (run.upper + first) % 2 == 1)

theorem UpperRun.ne_of_avoids {run : UpperRun} {first last step k n : Nat}
    (h : run.avoids first last step = true) (hk : k ≤ run.last - run.first)
    (hstep : k % run.step = 0) (hn : first ≤ n ∧ n ≤ last) (hnstep : (n - first) % step = 0) :
    run.upper + k ≠ n := by
  simp only [avoids, Bool.or_eq_true, Bool.and_eq_true, Nat.blt_eq, beq_iff_eq] at h
  rcases h with (h | h) | ⟨⟨hrun, hother⟩, hparity⟩
  · omega
  · omega
  · have hkeven : k % 2 = 0 := by
      rcases hrun with hrun | hrun
      · rwa [hrun] at hstep
      · omega
    have hneven : (n - first) % 2 = 0 := by
      rcases hother with hother | hother
      · rwa [hother] at hnstep
      · omega
    omega

theorem upperRuns_avoid_runs : (upperRuns.all fun run => upperRuns.all fun other =>
    run.avoids other.first other.last other.step) = true := by
  decide +kernel

theorem upperRuns_avoid_expansions : (upperRuns.all fun run => upperExpansions.all fun entry =>
    run.avoids entry.1 entry.1 1) = true := by
  decide +kernel

theorem upperExpansions_no_upper : ∀ entry ∈ upperExpansions, ∀ n ∈ entry.2,
    upperExpansions.lookup n = none ∧ upperRuns.find? (·.holds n) = none := by
  decide +kernel

theorem upperRuns_no_upper {run : UpperRun} (hrun : run ∈ upperRuns) {k : Nat}
    (hk : k ≤ run.last - run.first) (hstep : k % run.step = 0) :
    upperExpansions.lookup (run.upper + k) = none ∧
      upperRuns.find? (·.holds (run.upper + k)) = none := by
  have hruns := List.all_eq_true.mp (List.all_eq_true.mp upperRuns_avoid_runs run hrun)
  have hexpansions := List.all_eq_true.mp (List.all_eq_true.mp upperRuns_avoid_expansions run hrun)
  refine ⟨List.lookup_eq_none_iff.mpr fun entry hentry => ?_,
    List.find?_eq_none.mpr fun other hother => ?_⟩
  · have hne := UpperRun.ne_of_avoids (hexpansions entry hentry) hk hstep ⟨le_rfl, le_rfl⟩
      (Nat.mod_one _)
    simpa using hne
  · intro hholds
    simp only [UpperRun.holds, Bool.and_eq_true, decide_eq_true_eq, beq_iff_eq] at hholds
    exact UpperRun.ne_of_avoids (hruns other hother) hk hstep hholds.1 hholds.2 rfl

theorem upperChar_toUpper_ascii : ∀ n < 0x80,
    upperChar (Char.ofNat n).toUpper = upperChar (Char.ofNat n) := by
  decide +kernel

/-- Upper-casing does not see the case of an ASCII letter. -/
theorem upperChar_toUpper (c : Char) : upperChar c.toUpper = upperChar c := by
  by_cases h : c.toNat < 0x80
  · rw [← Char.ofNat_toNat c]
    exact upperChar_toUpper_ascii _ h
  · rw [toUpper_eq_self (by omega)]

theorem upper_asciiUpper (text : Text) : upper (asciiUpper text) = upper text := by
  rw [upper, asciiUpper, List.flatMap_map]
  exact List.flatMap_congr fun c _ => upperChar_toUpper c

theorem toNat_ofNat_eq_or (n : Nat) : (Char.ofNat n).toNat = n ∨ (Char.ofNat n).toNat = 0 := by
  rw [Char.toNat_ofNat]
  split
  · exact .inl rfl
  · exact .inr rfl

/-- The upper case of a character has no other upper case. -/
theorem upperChar_of_mem_upperChar {a c : Char} (h : c ∈ upperChar a) : upperChar c = [c] := by
  have hofNat : ∀ {n : Nat}, upperExpansions.lookup n = none ∧
      upperRuns.find? (·.holds n) = none → c = Char.ofNat n → upperChar c = [c] := by
    rintro n ⟨hexpansion, hrun⟩ hc
    by_cases hlt : c.toNat < 0x80
    · rw [upperChar_of_lt hlt, toUpper_of_mem_upperChar h]
    · have hn : c.toNat = n := by
        rw [hc] at hlt ⊢
        have := toNat_ofNat_eq_or n
        omega
      rw [upperChar, if_neg hlt, hn, hexpansion, hrun]
  rcases mem_upperChar_cases h with ⟨ha, hc⟩ | ⟨entry, hentry, n, hn, hc⟩ |
    ⟨run, hrun, k, hk, hstep, hc⟩
  · rw [hc, upperChar_toUpper, ha]
  · exact hofNat (upperExpansions_no_upper entry hentry n hn) hc
  · exact hofNat (upperRuns_no_upper hrun hk hstep) hc

theorem upper_upper (text : Text) : upper (upper text) = upper text := by
  rw [upper, upper, List.flatMap_assoc]
  refine List.flatMap_congr fun a _ => ?_
  rw [List.flatMap_congr fun c hc => upperChar_of_mem_upperChar hc]
  exact List.flatMap_singleton' _

/-! ### Blanks in upper case -/

theorem upperExpansions_not_blank : ∀ entry ∈ upperExpansions, entry.2 ≠ [] ∧
    ∀ n ∈ entry.2, isBlank (Char.ofNat n) = false := by
  decide +kernel

/-- The runs lead past all blanks. -/
theorem upperRuns_avoid_blanks : ∀ run ∈ upperRuns, 0x20 < run.upper ∧
    ∀ n ∈ wideBlanks, run.avoids n n 1 = true := by
  decide +kernel

theorem upperChar_ne_nil (c : Char) : upperChar c ≠ [] := by
  unfold upperChar
  split
  · exact List.cons_ne_nil _ _
  split
  · rename_i expansion he
    obtain ⟨_, _, hl, _⟩ := List.lookup_eq_some_iff.mp he
    have hm : (c.toNat, expansion) ∈ upperExpansions := by simp [hl]
    simpa using (upperExpansions_not_blank _ hm).1
  · split
    · exact List.cons_ne_nil _ _
    · exact List.cons_ne_nil _ _

/-- Upper-casing makes no blank of another character. -/
theorem isBlank_of_mem_upperChar {a c : Char} (h : c ∈ upperChar a) (ha : isBlank a = false) :
    isBlank c = false := by
  rcases mem_upperChar_cases h with ⟨-, rfl⟩ | ⟨entry, hentry, n, hn, rfl⟩ |
    ⟨run, hrun, k, hk, hstep, rfl⟩
  · rw [isBlank_toUpper, ha]
  · exact (upperExpansions_not_blank entry hentry).2 n hn
  · obtain ⟨habove, havoids⟩ := upperRuns_avoid_blanks run hrun
    have hnat := toNat_ofNat_eq_or (run.upper + k)
    generalize hc : Char.ofNat (run.upper + k) = c at hnat
    rw [Bool.eq_false_iff]
    intro hb
    by_cases hlt : c.toNat < 0x80
    · simp only [isBlank, Bool.or_eq_true, Bool.and_eq_true, decide_eq_true_eq, beq_iff_eq] at hb
      omega
    · have hne := UpperRun.ne_of_avoids (havoids _ (mem_wideBlanks hb hlt)) hk hstep
        ⟨le_rfl, le_rfl⟩ (Nat.mod_one _)
      omega

/-! ### Trimmed texts -/

/-- A text with no blank at either end. -/
structure Trimmed (text : Text) : Prop where
  first : ∀ c ∈ text.head?, isBlank c = false
  last : ∀ c ∈ text.getLast?, isBlank c = false

theorem Trimmed.trim_eq {text : Text} (h : Trimmed text) : trim text = text :=
  trim_eq_self h.first h.last

theorem head?_trimStart (text : Text) : ∀ c ∈ (trimStart text).head?, isBlank c = false := by
  intro c hc
  have hhead := List.head?_dropWhile_not isBlank text
  rw [show (text.dropWhile isBlank).head? = some c from hc] at hhead
  exact hhead

theorem trimmed_trim (text : Text) : Trimmed (trim text) := by
  have hback := head?_trimStart (trimStart text).reverse
  refine ⟨?_, ?_⟩
  · -- what is left of a text at its end ends as the text does, seen backwards
    rw [trim, List.head?_reverse]
    obtain ⟨front, hfront⟩ := List.dropWhile_suffix isBlank (l := (trimStart text).reverse)
    intro c hc
    apply head?_trimStart text
    rw [← List.getLast?_reverse, ← hfront]
    exact List.mem_getLast?_append_of_mem_getLast? hc
  · rw [trim, List.getLast?_reverse]
    exact hback

/-- Blanks added at the ends are trimmed off. -/
theorem trim_blanks_append {front back : Text} (hfront : AllBlank front) (hback : AllBlank back)
    (text : Text) : trim (front ++ (text ++ back)) = trim text := by
  have hreverse : AllBlank back.reverse := fun c hc => hback c (List.mem_reverse.mp hc)
  have hnone : trimStart back = [] := List.dropWhile_eq_nil_iff.mpr hback
  rw [trim, trimStart_blanks_append hfront, trim,
    show trimStart (text ++ back) = _ from List.dropWhile_append]
  split
  · rename_i hempty
    rw [List.isEmpty_iff] at hempty
    rw [show List.dropWhile isBlank back = [] from hnone, show trimStart text = [] from hempty]
  · rw [List.reverse_append, trimStart_blanks_append hreverse]
    rfl

theorem trim_asciiUpper (text : Text) : trim (asciiUpper text) = asciiUpper (trim text) := by
  have hreverse : ∀ t : Text, (asciiUpper t).reverse = asciiUpper t.reverse :=
    fun t => List.map_reverse.symm
  rw [trim, trim, trimStart_asciiUpper, hreverse, trimStart_asciiUpper, hreverse]

/-- A trimmed text is trimmed in upper case. -/
theorem Trimmed.upper {text : Text} (h : Trimmed text) : Trimmed (upper text) := by
  refine ⟨?_, ?_⟩
  · cases text with
    | nil => simp [TimePhrase.upper]
    | cons a text =>
      intro c hc
      rw [TimePhrase.upper, List.flatMap_cons,
        List.head?_append_of_ne_nil _ (upperChar_ne_nil a)] at hc
      exact isBlank_of_mem_upperChar (List.mem_of_mem_head? hc) (h.first a rfl)
  · rcases List.eq_nil_or_concat text with rfl | ⟨text, a, rfl⟩
    · simp [TimePhrase.upper]
    · intro c hc
      rw [List.concat_eq_append] at h hc
      rw [TimePhrase.upper, List.flatMap_append, List.flatMap_singleton,
        List.getLast?_append_of_ne_nil _ (upperChar_ne_nil a)] at hc
      exact isBlank_of_mem_upperChar (List.mem_of_mem_getLast? hc) (h.last a (by simp))

end TimePhrase
