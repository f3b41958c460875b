/-
# Texts without control sequences

Where a stream shows no colors, a text is stripped for it: terminal control
sequences are dropped whole, and so are control characters other than the
ASCII blanks.

Most sequences end with a certain character. The strings among them go on
until an escape character or a cancelling one: the title strings also until a
bell, and all others, once their first marks are over, until a character whose
encoding has the byte of the string terminator. Outside of strings a blank is
kept even within a sequence; it is shown with all that follows up to the next
control character, and only then the sequence goes on.

Key definitions: `ControlState`, `ControlState.next`, `plainFrom`, `plain`.
-/
import TimePhrase.Text.Blank

namespace TimePhrase

/-- Where in a control sequence a text is. -/
inductive ControlState where
  /-- Outside of any sequence. -/
  | ground
  /-- After the escape character. -/
  | escape
  /-- After an escape with marks, which ends from `0` to `~`. -/
  | charset
  /-- In a sequence that ends from `@` to `~`. -/
  | control
  /-- In a string that sets a title, which a bell ends as well. -/
  | title
  /-- At the start of a string for the device. -/
  | deviceStart
  /-- In the numbers before a string for the device. -/
  | deviceNumbers
  /-- In the marks before a string for the device. -/
  | deviceMarks
  /-- In any other string. -/
  | body
  deriving DecidableEq, Repr

/-- The blanks among the ASCII control characters. -/
def isBlankControl (c : Char) : Bool :=
  c = '\t' || c = '\n' || c = '\x0c' || c = '\r'

/-- Whether a character is kept outside of sequences. -/
def isShown (c : Char) : Bool :=
  isBlankControl c || (' ' ≤ c && c ≠ '\x7f')

/-- Whether the encoding of a character has the byte that terminates
strings. -/
def holdsTerminator (c : Char) : Bool :=
  (String.utf8EncodeChar c).contains 0x9C

namespace ControlState

/-- The state that an escape character leads to with the one after it. -/
def ofIntroducer (c : Char) : ControlState :=
  if c = '[' then control
  else if c = ']' then title
  else if c = 'P' then deviceStart
  else if c = 'X' || c = '^' || c = '_' then body
  else if ' ' ≤ c && c < '0' then charset
  else if '0' ≤ c && c ≤ '~' then ground
  else escape

/-- The state after a character of a sequence that is not kept. -/
def within (state : ControlState) (c : Char) : ControlState :=
  match state with
  | ground => ground
  | escape => ofIntroducer c
  | charset => if '0' ≤ c && c ≤ '~' then ground else charset
  | control => if '@' ≤ c && c ≤ '~' then ground else control
  | title => if c = '\x07' then ground else title
  | deviceStart =>
    if ' ' ≤ c && c < '0' then deviceMarks
    else if '0' ≤ c && c ≤ '?' && c ≠ ':' then deviceNumbers
    else if c = ':' || ('@' ≤ c && c ≤ '~') then body
    else deviceStart
  | deviceNumbers =>
    if ' ' ≤ c && c < '0' then deviceMarks
    else if ('0' ≤ c && c ≤ '9') || c = ';' then deviceNumbers
    else if ':' ≤ c && c ≤ '~' then body
    else deviceNumbers
  | deviceMarks => if '0' ≤ c && c ≤ '~' then body else deviceMarks
  | body => if holdsTerminator c then ground else body

/-- Whether the blanks within the sequence are kept. -/
def keepsBlanks : ControlState → Bool
  | ground | escape | charset | control => true
  | title | deviceStart | deviceNumbers | deviceMarks | body => false

/-- The state after a character, and whether the character is kept. -/
def next (state : ControlState) (c : Char) : ControlState × Bool :=
  if c = '\x1b' then (escape, false)
  else if c = '\x18' || c = '\x1a' then (ground, false)
  else if isBlankControl c && state.keepsBlanks then (state, true)
  else if state = ground then (ground, isShown c)
  else (state.within c, false)

end ControlState

/-- What is kept of a text from a state on. While `shown` holds, the sequence
of the state is interrupted; a character beyond ASCII ends it for good. -/
def plainFrom (shown : Bool) (state : ControlState) : Text → Text
  | [] => []
  | c :: rest =>
    if shown && isShown c then
      c :: plainFrom true (if c.toNat < 0x80 then state else .ground) rest
    else
      let (after, kept) := state.next c
      if kept then c :: plainFrom true after rest else plainFrom false after rest

/-- A text without control sequences and control characters. -/
def plain (text : Text) : Text :=
  plainFrom false .ground text

end TimePhrase
