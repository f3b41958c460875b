/-
# Patterns of words

A pattern is a sequence of parts, each a choice of words, some of which may be
left out. Between two parts stand any number of blanks, also none. A text
fits a pattern only as a whole, and case does not count.

`readings` lists every way in which a text fits, each as the words written for
the parts, and `Pattern.read?` takes the first.

Key definitions: `Part`, `Pattern`, `readWord?`, `readings`, `Pattern.read?`.
-/
import TimePhrase.Text.Fold

namespace TimePhrase

/-- A place in a pattern: one of the words, or nothing if it is optional. -/
structure Part where
  words : List Text
  optional : Bool
  deriving DecidableEq, Repr

/-- A part that has to be there. -/
def Part.required (words : List Text) : Part := ⟨words, false⟩

/-- A part that may be left out. -/
def Part.maybe (words : List Text) : Part := ⟨words, true⟩

/-- The parts of a phrase in order. -/
abbrev Pattern := List Part

/-- What is written for each part, `none` for one that is left out. -/
abbrev Reading := List (Option Text)

/-- The front of the text as it is written, if it is the given word, and the
rest of the text. -/
def readWord? (text word : Text) : Option (Text × Text) :=
  if sameLetters (text.take word.length) word then
    some (text.take word.length, text.drop word.length)
  else none

/-- What is read and what is left make up the text. -/
theorem append_of_readWord? {text word written rest : Text}
    (h : readWord? text word = some (written, rest)) : written ++ rest = text := by
  unfold readWord? at h
  split at h
  · cases h
    exact List.take_append_drop _ _
  · cases h

/-- What is read has the letters of the word. -/
theorem sameLetters_of_readWord? {text word written rest : Text}
    (h : readWord? text word = some (written, rest)) : sameLetters written word = true := by
  unfold readWord? at h
  split at h
  · cases h
    assumption
  · cases h

/-- The text at which the parts that follow start: blanks stand between parts
and not after the last. -/
def skipBlanks (parts : Pattern) (text : Text) : Text :=
  if parts.isEmpty then text else trimStart text

/-- The ways to read the parts off the whole text, a written word before a
part left out. -/
def readings : Pattern → Text → List Reading
  | [], text => if text.isEmpty then [[]] else []
  | part :: parts, text =>
    (part.words.filterMap (readWord? text)).flatMap (fun (written, rest) =>
      (readings parts (skipBlanks parts rest)).map (some written :: ·)) ++
    if part.optional then (readings parts (skipBlanks parts text)).map (none :: ·) else []

/-- What is written for the parts, if the whole text fits the pattern. -/
def Pattern.read? (pattern : Pattern) (text : Text) : Option Reading :=
  (readings pattern text).head?

end TimePhrase
