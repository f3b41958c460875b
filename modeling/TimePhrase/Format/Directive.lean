/-
# Formats

A format is a text in which a percent sign and the letters after it, a
directive, ask for an item. Numbers may carry a sign for their padding between
the two: `-` for none, `0` for zeros, `_` for spaces. All other characters stand
for themselves.

No directive is the start of another one, so that a format is read in one way
only (`directives_pairwise`). A format is accepted if every directive is known and if it
can show a date-time, which is tried on the start of 1970 (`checkFormat`).

Key definitions: `directives`, `formatItems?`, `DateTime.render?`,
`FormatError`, `checkFormat`.
-/
import TimePhrase.Format.Item

namespace TimePhrase

/-! ### Directives -/

/-- The numbers by their letters, with the padding they have of themselves. -/
def numberDirectives : List (Char × NumberField × Padding) := [
  ('Y', .year, .zero), ('C', .century, .zero), ('y', .yearOfCentury, .zero),
  ('G', .isoYear, .zero), ('g', .isoYearOfCentury, .zero), ('V', .isoWeek, .zero),
  ('q', .quarter, .none), ('m', .month, .zero), ('d', .day, .zero), ('e', .day, .space),
  ('j', .dayOfYear, .zero), ('U', .weekFromSunday, .zero), ('W', .weekFromMonday, .zero),
  ('w', .daysFromSunday, .none), ('u', .dayFromMonday, .none),
  ('H', .hour, .zero), ('k', .hour, .space), ('I', .hour12, .zero), ('l', .hour12, .space),
  ('M', .minute, .zero), ('S', .second, .zero), ('f', .nanosecond, .zero),
  ('s', .timestamp, .none)]

/-- The names by their letters. -/
def nameDirectives : List (Char × NameField) := [
  ('A', .weekday), ('a', .shortWeekday), ('B', .month), ('b', .shortMonth), ('h', .shortMonth),
  ('p', .halfDay), ('P', .smallHalfDay)]

/-- Month, day and year with slashes. -/
def slashedDate : List Item :=
  [.number .month .zero, .literal ['/'], .number .day .zero, .literal ['/'],
    .number .yearOfCentury .zero]

/-- Year, month and day with hyphens. -/
def hyphenedDate : List Item :=
  [.number .year .zero, .literal ['-'], .number .month .zero, .literal ['-'], .number .day .zero]

/-- Hour and minute. -/
def shortTime : List Item :=
  [.number .hour .zero, .literal [':'], .number .minute .zero]

/-- Hour, minute and second. -/
def fullTime : List Item :=
  shortTime ++ [.literal [':'], .number .second .zero]

/-- The directives for several items at once. -/
def groupDirectives : List (Char × List Item) := [
  ('D', slashedDate), ('x', slashedDate), ('F', hyphenedDate), ('R', shortTime), ('T', fullTime),
  ('X', fullTime),
  ('r', [.number .hour12 .zero, .literal [':'], .number .minute .zero, .literal [':'],
    .number .second .zero, .literal [' '], .name .halfDay]),
  ('v', [.number .day .space, .literal ['-'], .name .shortMonth, .literal ['-'],
    .number .year .zero]),
  ('c', [.name .shortWeekday, .literal [' '], .name .shortMonth, .literal [' '],
    .number .day .space, .literal [' ']] ++ fullTime ++ [.literal [' '], .number .year .zero])]

/-- The directives for fractions of a second, zones and single characters. -/
def otherDirectives : List (Text × List Item) := [
  ("3f".toList, [.fraction 3]), ("6f".toList, [.fraction 6]), ("9f".toList, [.fraction 9]),
  (".3f".toList, [.literal ['.'], .fraction 3]), (".6f".toList, [.literal ['.'], .fraction 6]),
  (".9f".toList, [.literal ['.'], .fraction 9]), (".f".toList, [.shortFraction]),
  ("z".toList, [.zone]), (":z".toList, [.zone]), ("::z".toList, [.zone]), (":::z".toList, [.zone]),
  ("#z".toList, [.zone]), ("Z".toList, [.zone]), ("+".toList, [.zone]),
  ("%".toList, [.literal ['%']]), ("n".toList, [.literal ['\n']]), ("t".toList, [.literal ['\t']])]

/-- What may follow a percent sign, with the items it asks for. -/
def directives : List (Text × List Item) :=
  numberDirectives.flatMap (fun (letter, field, padding) => [
    ([letter], [.number field padding]), (['-', letter], [.number field .none]),
    (['0', letter], [.number field .zero]), (['_', letter], [.number field .space])]) ++
  nameDirectives.map (fun (letter, field) => ([letter], [.name field])) ++
  groupDirectives.map (fun (letter, items) => ([letter], items)) ++
  otherDirectives

/-- Of two directives, neither starts with the other. -/
theorem directives_pairwise :
    directives.Pairwise fun a b => (a.1.isPrefixOf b.1 || b.1.isPrefixOf a.1) = false := by
  decide +kernel

/-! ### Formats -/

/-- The items of a format, if all its directives are known. -/
def formatItems? (format : Text) : Option (List Item) :=
  match format with
  | [] => some []
  | '%' :: rest =>
    match directives.find? (·.1.isPrefixOf rest) with
    | none => none
    | some (letters, items) => (formatItems? (rest.drop letters.length)).map (items ++ ·)
  | c :: rest => (formatItems? rest).map (.literal [c] :: ·)
termination_by format.length
decreasing_by all_goals simp only [List.length_cons, List.length_drop]; omega

/-- A date-time in a format, if every item has a text. -/
def DateTime.render? (dt : DateTime) (format : Text) : Option Text := do
  let texts ← (← formatItems? format).mapM (·.render? dt)
  return texts.flatten

/-- Why a format is refused. -/
inductive FormatError where
  /-- A directive is not known or not complete. -/
  | malformed
  /-- A date-time without a zone cannot be shown. -/
  | needsZone
  deriving DecidableEq, Repr

/-- The text of an error about a format. -/
def FormatError.message (format : Text) : FormatError → String
  | malformed => "invalid strftime format '" ++ String.ofList format ++ "'"
  | needsZone =>
    "format '" ++ String.ofList format ++ "' cannot render a date-time without a time zone"

/-- The format itself, if it is well formed and can show the start of 1970. -/
def checkFormat (format : Text) : Except FormatError Text :=
  if (formatItems? format).isNone then .error .malformed
  else if (DateTime.epoch.render? format).isNone then .error .needsZone
  else .ok format

end TimePhrase
