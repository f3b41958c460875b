/-
# Quoted texts

A text between double quotes, with everything escaped that would not show as
itself: quotes and backslashes, control characters, and all characters without
a shape of their own.

Key definitions: `numberEscape`, `quoteChar`, `quoted`.
-/
import TimePhrase.Text.Shapeless

namespace TimePhrase

/-- The escape of a character by its number. -/
def numberEscape (c : Char) : Text :=
  "\\u\x7b".toList ++ Nat.toDigits 16 c.toNat ++ "\x7d".toList

/-- A character as it stands between quotes. -/
def quoteChar (c : Char) : Text :=
  match c with
  | '\x00' => "\\0".toList
  | '\t' => "\\t".toList
  | '\r' => "\\r".toList
  | '\n' => "\\n".toList
  | '\\' => "\\\\".toList
  | '"' => "\\\"".toList
  | c => if isShapeless c then numberEscape c else [c]

/-- A text between double quotes. -/
def quoted (text : Text) : Text :=
  ['"'] ++ text.flatMap quoteChar ++ ['"']

end TimePhrase
