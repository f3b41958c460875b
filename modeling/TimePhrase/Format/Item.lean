/-
# Pieces of a formatted date-time

A formatted date-time is made of items: literal text, numbers with padding,
names, and fractions of the second. Items that speak of a time zone exist as
well, but a date-time has no zone to show (`Item.render?`).

A year between 0 and 9999 has four digits and any other year a sign and at
least four. A two-digit number is written from a byte, its tens as the
character so many places after `0`. A leap second shows as second 60.

Key definitions: `Padding`, `NumberField`, `NumberField.render`, `NameField`,
`Item`, `Item.render?`, `Date.isoWeek`, `DateTime.timestamp`.
-/
import TimePhrase.Calendar.DateTime
import TimePhrase.Text.Blank

namespace TimePhrase

/-! ### Numbers -/

/-- What fills up a number that is too short. -/
inductive Padding where
  | none | zero | space
  deriving DecidableEq, Repr

/-- A number below 256 with two places. -/
def twoPlaces (n : Nat) (padding : Padding) : Text :=
  let ones := Char.ofNat ('0'.toNat + n % 10)
  if n / 10 = 0 ∧ padding = .none then [ones]
  else if n / 10 = 0 ∧ padding = .space then [' ', ones]
  else [Char.ofNat ('0'.toNat + n / 10), ones]

/-- A number with at least `width` places, the sign among them. -/
def padded (width : Nat) (n : Int) (padding : Padding) (plus : Bool) : Text :=
  let sign := if n < 0 then ['-'] else if plus then ['+'] else []
  let digits := Nat.toDigits 10 n.natAbs
  let missing := width - sign.length - digits.length
  match padding with
  | .none => sign ++ digits
  | .zero => sign ++ List.replicate missing '0' ++ digits
  | .space => List.replicate missing ' ' ++ sign ++ digits

/-- A year: four places, or five with the sign when it has no four digits. -/
def paddedYear (year : Int) (padding : Padding) : Text :=
  if 0 ≤ year ∧ year < 10000 then padded 4 year padding false else padded 5 year padding true

/-! ### Readings of a date-time -/

/-- The week of the ISO calendar: weeks start on Monday, and a week belongs to
the year that holds its Thursday. -/
def Date.isoWeek (d : Date) : Int × Nat :=
  let thursday := d.addDays (3 - d.weekday.fromMonday)
  (thursday.year, (thursday.dayOfYear - 1) / 7 + 1)

/-- The number of a week in the year, week 1 being the first that starts
within the year. `days` counts the days since the last start of a week. -/
def Date.weekStarted (d : Date) (days : Nat) : Nat :=
  (d.dayOfYear + 6 - days) / 7

/-- The hour on a clock of twelve hours. -/
def TimeOfDay.hour12 (t : TimeOfDay) : Nat :=
  if t.hour % 12 = 0 then 12 else t.hour % 12

/-- The seconds since the start of 1970, leap seconds not counted. -/
def DateTime.timestamp (dt : DateTime) : Int :=
  (dt.date.dayNumber - DateTime.epoch.date.dayNumber) * 86400 + dt.time.secondOfDay

/-- The nanoseconds since the last full second on the clock. -/
def DateTime.subsecond (dt : DateTime) : Nat :=
  dt.time.nano % 1000000000

/-- A number that a format can ask for. -/
inductive NumberField where
  | year | century | yearOfCentury
  | isoYear | isoYearOfCentury | isoWeek
  | quarter | month | day | dayOfYear
  | weekFromSunday | weekFromMonday | daysFromSunday | dayFromMonday
  | hour | hour12 | minute | second | nanosecond | timestamp
  deriving DecidableEq, Repr

/-- The text of a number. Numbers of one digit take no padding. -/
def NumberField.render (field : NumberField) (padding : Padding) (dt : DateTime) : Text :=
  let date := dt.date
  let time := dt.time
  match field with
  | year => paddedYear date.year padding
  | century => twoPlaces (date.year / 100 % 256).toNat padding
  | yearOfCentury => twoPlaces (date.year % 100).toNat padding
  | isoYear => paddedYear date.isoWeek.1 padding
  | isoYearOfCentury => twoPlaces (date.isoWeek.1 % 100).toNat padding
  | isoWeek => twoPlaces date.isoWeek.2 padding
  | quarter => Nat.toDigits 10 ((date.month - 1) / 3 + 1)
  | month => twoPlaces date.month padding
  | day => twoPlaces date.day padding
  | dayOfYear => padded 3 date.dayOfYear padding false
  | weekFromSunday => twoPlaces (date.weekStarted date.weekday.fromSunday) padding
  | weekFromMonday => twoPlaces (date.weekStarted date.weekday.fromMonday) padding
  | daysFromSunday => Nat.toDigits 10 date.weekday.fromSunday
  | dayFromMonday => Nat.toDigits 10 (date.weekday.fromMonday + 1)
  | hour => twoPlaces time.hour padding
  | hour12 => twoPlaces time.hour12 padding
  | minute => twoPlaces time.minute padding
  | second => twoPlaces (time.second + time.nano / 1000000000) padding
  | nanosecond => padded 9 dt.subsecond padding false
  | timestamp => padded 9 dt.timestamp padding false

/-! ### Names -/

/-- The English name of a month. -/
def monthName (month : Nat) : String :=
  match month with
  | 1 => "January"
  | 2 => "February"
  | 3 => "March"
  | 4 => "April"
  | 5 => "May"
  | 6 => "June"
  | 7 => "July"
  | 8 => "August"
  | 9 => "September"
  | 10 => "October"
  | 11 => "November"
  | _ => "December"

/-- A name that a format can ask for. -/
inductive NameField where
  | weekday | shortWeekday | month | shortMonth | halfDay | smallHalfDay
  deriving DecidableEq, Repr

/-- The text of a name. Short names are the first three letters. -/
def NameField.render (field : NameField) (dt : DateTime) : Text :=
  match field with
  | weekday => dt.date.weekday.name.toList
  | shortWeekday => dt.date.weekday.shortName.toList
  | month => (monthName dt.date.month).toList
  | shortMonth => (monthName dt.date.month).toList.take 3
  | halfDay => (if dt.time.hour < 12 then "AM" else "PM").toList
  | smallHalfDay => (if dt.time.hour < 12 then "am" else "pm").toList

/-! ### Items -/

/-- A piece of a format. -/
inductive Item where
  /-- A text that stands for itself. -/
  | literal (text : Text)
  | number (field : NumberField) (padding : Padding)
  | name (field : NameField)
  /-- The first `digits` digits of the fraction of the second. -/
  | fraction (digits : Nat)
  /-- A point and as many of 3, 6 or 9 digits as are needed, or nothing. -/
  | shortFraction
  /-- A time zone. -/
  | zone
  deriving DecidableEq, Repr

/-- The first `digits` digits of the fraction of a second. -/
def fractionDigits (digits nano : Nat) : Text :=
  (padded 9 nano .zero false).take digits

/-- The fraction of a second after a point, nothing if it is zero. -/
def shortestFraction (nano : Nat) : Text :=
  if nano = 0 then []
  else if nano % 1000000 = 0 then '.' :: fractionDigits 3 nano
  else if nano % 1000 = 0 then '.' :: fractionDigits 6 nano
  else '.' :: fractionDigits 9 nano

/-- The text of an item for a date-time, which has no zone to show. -/
def Item.render? (dt : DateTime) : Item → Option Text
  | literal text => some text
  | number field padding => some (field.render padding dt)
  | name field => some (field.render dt)
  | fraction digits => some (fractionDigits digits dt.subsecond)
  | shortFraction => some (shortestFraction dt.subsecond)
  | zone => none

end TimePhrase
