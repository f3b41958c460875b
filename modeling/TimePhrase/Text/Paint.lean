/-
# Painted texts

A text is set off on a terminal by a control sequence before it and one after
it that sets everything back.

Key definitions: `Paint`, `Paint.apply`.
-/

namespace TimePhrase

/-- A way to set off a text on a terminal. -/
inductive Paint where
  | bold | dim | red | green | yellow | blue | cyan | gray
  deriving DecidableEq, Repr

/-- The code of a paint in a terminal's control sequences. -/
def Paint.code : Paint → String
  | bold => "1"
  | dim => "2"
  | red => "31"
  | green => "32"
  | yellow => "33"
  | blue => "34"
  | cyan => "36"
  | gray => "90"

/-- A text set off, if colors are wanted. -/
def Paint.apply (paint : Paint) (color : Bool) (text : String) : String :=
  if color then "\x1b[" ++ paint.code ++ "m" ++ text ++ "\x1b[0m" else text

end TimePhrase
