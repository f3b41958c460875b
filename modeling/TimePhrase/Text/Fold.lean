/-
# Letters compared without case

Two characters are the same letter when they fold to the same character. The
words of the phrases are spelled with the letters A to Z, so folding is needed
on the characters that fold to one of these only: the ASCII letters, the long
s and the Kelvin sign. `asciiUpper` is narrower, and knows the ASCII letters
alone.

Key definitions: `foldCase`, `sameLetters`, `asciiUpper`.
-/
import TimePhrase.Text.Blank

namespace TimePhrase

/-- The character that a letter folds to, among those that fold to an ASCII
letter. All other characters stay as they are. -/
def foldCase (c : Char) : Char :=
  if c = '\u017f' then 's' else if c = '\u212a' then 'k' else c.toLower

/-- Whether two texts agree up to case. -/
def sameLetters (a b : Text) : Bool :=
  a.map foldCase == b.map foldCase

/-- A text with the ASCII letters in upper case and all else kept. -/
def asciiUpper (text : Text) : Text :=
  text.map Char.toUpper

end TimePhrase
