/-
# Written references

A reference is written as a date, a `T` or blanks, and a time with an optional
fraction of the second. A number may have blanks before it. A year without a
sign has up to four digits, and any number with one; all other numbers have one
or two. Second 60 is the leap second after second 59, and of the fraction nine
digits count.

Key definitions: `Reader`, `readReference?`, `referenceMessage`.
-/
import TimePhrase.Calendar.DateTime
import TimePhrase.Text.Blank

namespace TimePhrase

/-- A reader takes what it needs from the front of a text, or fails. -/
abbrev Reader := StateT Text Option

namespace Reader

/-- One given character. -/
def char (c : Char) : Reader Unit := fun text =>
  match text with
  | [] => none
  | d :: rest => if d = c then some ((), rest) else none

/-- Any number of blanks. -/
def blanks : Reader Unit := fun text => some ((), trimStart text)

/-- The number that digits stand for. -/
def valueOf (digits : Text) : Nat :=
  digits.foldl (fun n c => 10 * n + (c.toNat - '0'.toNat)) 0

/-- At least one digit, and as many more as follow up to `limit`. -/
def digits (limit : Nat) : Reader Text := fun text =>
  let found := (text.take limit).takeWhile Char.isDigit
  if found.isEmpty then none else some (found, text.drop found.length)

/-- Digits without a limit. -/
def allDigits : Reader Text := fun text => digits text.length text

/-- A number of one or two digits, blanks allowed before it. -/
def number : Reader Nat := do
  blanks
  return valueOf (← digits 2)

/-- A year, blanks allowed before it. -/
def year : Reader Int := do
  blanks
  match ← get with
  | '-' :: rest => do
    set rest
    return -valueOf (← allDigits)
  | '+' :: rest => do
    set rest
    return valueOf (← allDigits)
  | _ => return valueOf (← digits 4)

/-- The nanoseconds of an optional fraction, digits past the ninth left out. -/
def fraction : Reader Nat := do
  match ← get with
  | '.' :: rest => do
    set rest
    let found := (← allDigits).take 9
    return valueOf (found ++ List.replicate (9 - found.length) '0')
  | _ => return 0

/-- A date-time with the given separator between date and time. -/
def dateTime (separator : Reader Unit) : Reader DateTime := do
  let year ← year
  char '-'
  let month ← number
  char '-'
  let day ← number
  separator
  let hour ← number
  char ':'
  let minute ← number
  char ':'
  let second ← number
  let nano ← fraction
  if second = 60 then
    DateTime.ofFields? year month day hour minute 59 (nano + 1000000000)
  else
    DateTime.ofFields? year month day hour minute second nano

/-- What a reader makes of a text, if it takes all of it. -/
def whole? {α : Type} (reader : Reader α) (text : Text) : Option α :=
  match reader text with
  | some (value, []) => some value
  | _ => none

end Reader

/-- The date-time that a reference is written for. -/
def readReference? (text : Text) : Option DateTime :=
  (Reader.dateTime (Reader.char 'T')).whole? text <|> (Reader.dateTime Reader.blanks).whole? text

/-- The text of the error about a reference that cannot be read. -/
def referenceMessage (text : Text) : String :=
  "invalid reference '" ++ String.ofList text ++ "' (expected YYYY-MM-DDTHH:MM:SS[.fff])"

end TimePhrase
