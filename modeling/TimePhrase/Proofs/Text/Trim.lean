/-
# Blanks at the ends, and upper case

What trimming and upper-casing leave of a text that looks like a phrase.
Trimming takes only blanks at the front of a text that ends in another
character (`trim_of_endsPlain`), and nothing of one that has no blank at
either end (`trim_eq_self`). Upper-casing is that of ASCII on a regular text:
the upper case of each character is one character, which is the character
itself beyond ASCII (`upper_of_regular`). ASCII texts are regular, and so are
blanks.

Key definitions: `endsPlain`, `Regular`.
Key theorems: `trimStart_asciiUpper`, `trim_of_endsPlain`, `trim_eq_self`,
`upper_of_regular`, `AllBlank.regular`.
-/
import TimePhrase.Proofs.Text.Letters

namespace TimePhrase

/-! ### Blanks and the case of ASCII letters -/

theorem isBlank_toUpper (c : Char) : isBlank c.toUpper = isBlank c := by
  rw [← isBlank_foldCase c.toUpper, foldCase_toUpper, isBlank_foldCase]

theorem trimStart_asciiUpper (text : Text) :
    trimStart (asciiUpper text) = asciiUpper (trimStart text) :=
  trimStart_map isBlank_toUpper text

theorem asciiUpper_asciiUpper (text : Text) : asciiUpper (asciiUpper text) = asciiUpper text := by
  rw [asciiUpper, asciiUpper, List.map_map]
  exact List.map_congr_left fun c _ => Char.toUpper_toUpper_eq_toUpper c

/-! ### Blanks at the ends -/

/-- Whether a text ends with a character that is not blank. -/
def endsPlain (text : Text) : Bool :=
  startsPlain text.reverse

theorem endsPlain_append {b : Text} (h : endsPlain b = true) (a : Text) :
    endsPlain (a ++ b) = true := by
  rw [endsPlain, List.reverse_append]
  exact startsPlain_append h _

/-- A text that ends in another character has blanks at the front only. -/
theorem trim_of_endsPlain {text : Text} (h : endsPlain (trimStart text) = true) :
    trim text = trimStart text := by
  rw [trim, trimStart_of_startsPlain h, List.reverse_reverse]

theorem trimStart_eq_self {text : Text} (h : ∀ c ∈ text.head?, isBlank c = false) :
    trimStart text = text := by
  cases text with
  | nil => rfl
  | cons c text => exact trimStart_of_startsPlain (by simpa [startsPlain] using h)

theorem trim_eq_self {text : Text} (hstart : ∀ c ∈ text.head?, isBlank c = false)
    (hend : ∀ c ∈ text.getLast?, isBlank c = false) : trim text = text := by
  rw [← List.head?_reverse] at hend
  rw [trim, trimStart_eq_self hstart, trimStart_eq_self hend, List.reverse_reverse]

/-! ### Texts with the upper case of ASCII -/

/-- A text in which only ASCII letters have another upper case. -/
def Regular (text : Text) : Prop :=
  ∀ c ∈ text, upperChar c = [c.toUpper]

theorem Regular.append {a b : Text} (ha : Regular a) (hb : Regular b) : Regular (a ++ b) :=
  List.forall_mem_append.mpr ⟨ha, hb⟩

theorem upper_of_regular {text : Text} (h : Regular text) : upper text = asciiUpper text := by
  rw [upper, List.flatMap_congr h]
  exact List.flatMap_pure_eq_map Char.toUpper text

theorem upperChar_of_lt {c : Char} (h : c.toNat < 0x80) : upperChar c = [c.toUpper] := by
  rw [upperChar, if_pos h]

theorem regular_of_ascii {text : Text} (h : ∀ c ∈ text, c.toNat < 0x80) : Regular text :=
  fun c hc => upperChar_of_lt (h c hc)

/-- The blanks beyond ASCII. -/
def wideBlanks : List Nat := [
  0x85, 0xA0, 0x1680, 0x2000, 0x2001, 0x2002, 0x2003, 0x2004, 0x2005, 0x2006, 0x2007, 0x2008,
  0x2009, 0x200A, 0x2028, 0x2029, 0x202F, 0x205F, 0x3000]

theorem wideBlanks_no_upper : ∀ n ∈ wideBlanks,
    upperExpansions.lookup n = none ∧ upperRuns.find? (·.holds n) = none := by
  decide +kernel

theorem mem_wideBlanks {c : Char} (h : isBlank c = true) (hc : ¬ c.toNat < 0x80) :
    c.toNat ∈ wideBlanks := by
  simp only [isBlank, Bool.or_eq_true, Bool.and_eq_true, decide_eq_true_eq, beq_iff_eq] at h
  simp only [wideBlanks, List.mem_cons, List.not_mem_nil, or_false]
  omega

/-- Blanks have no upper case. -/
theorem AllBlank.regular {text : Text} (h : AllBlank text) : Regular text := by
  intro c hc
  by_cases hlt : c.toNat < 0x80
  · exact upperChar_of_lt hlt
  · obtain ⟨hexpansion, hrun⟩ := wideBlanks_no_upper _ (mem_wideBlanks (h c hc) hlt)
    rw [upperChar, if_neg hlt, hexpansion, hrun]
    simp only
    rw [toUpper_eq_self (by omega)]

end TimePhrase
