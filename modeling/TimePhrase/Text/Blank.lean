/-
# Blank characters

The white space of Unicode, and texts without it at their ends. Texts are
lists of characters here: every rule of this library reads them from the
front.

Key definitions: `Text`, `isBlank`, `trimStart`, `trim`.
-/

namespace TimePhrase

/-- A text, character by character. -/
abbrev Text := List Char

/-- The characters with the Unicode property `White_Space`. -/
def isBlank (c : Char) : Bool :=
  let n := c.toNat
  (0x9 ≤ n && n ≤ 0xD) || n == 0x20 || n == 0x85 || n == 0xA0 || n == 0x1680 ||
    (0x2000 ≤ n && n ≤ 0x200A) || n == 0x2028 || n == 0x2029 || n == 0x202F || n == 0x205F ||
    n == 0x3000

/-- The white space of ASCII is blank. -/
theorem isBlank_of_isWhitespace {c : Char} (h : c.isWhitespace = true) : isBlank c = true := by
  simp only [Char.isWhitespace, Bool.or_eq_true, decide_eq_true_eq] at h
  rcases h with ((h | h) | h) | h <;> subst h <;> rfl

/-- A text without the blanks it starts with. -/
def trimStart (text : Text) : Text :=
  text.dropWhile isBlank

/-- A text without the blanks at its ends. -/
def trim (text : Text) : Text :=
  (trimStart (trimStart text).reverse).reverse

end TimePhrase
