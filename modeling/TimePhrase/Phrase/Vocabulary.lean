/-
# The words of a phrase

Phrases are built from a few closed lists of words. A vocabulary gives each
word, in upper case, what it means, and finds the meaning of a written word
whatever the case of its ASCII letters.

Key definitions: `Vocabulary`, `Vocabulary.lookup?`, and the vocabularies
`nearWords`, `qualifiers`, `directions`, `edges`, `weekdays`, `months`,
`units`.
-/
import TimePhrase.Calendar.Field
import TimePhrase.Text.Fold

namespace TimePhrase

/-! ### What words mean -/

/-- A word that is a phrase on its own. -/
inductive NearWord where
  | now | today | tomorrow | yesterday
  deriving DecidableEq, Repr

/-- The word before a weekday or a month. -/
inductive Qualifier where
  | next | last | this | previous
  deriving DecidableEq, Repr

/-- Whether the qualifier asks for an occurrence in the past, as `LAST` and
`PREVIOUS` do. -/
def Qualifier.pointsBack : Qualifier → Bool
  | last | previous => true
  | next | this => false

/-- The way of a shift by one unit. -/
inductive Direction where
  | next | last
  deriving DecidableEq, Repr

/-- One unit ahead or one unit back. -/
def Direction.sign : Direction → Int
  | next => 1
  | last => -1

/-! ### Vocabularies -/

/-- Words in upper case, each with its meaning. -/
abbrev Vocabulary (α : Type) := List (Text × α)

namespace Vocabulary

/-- The words alone. -/
def words {α : Type} (v : Vocabulary α) : List Text :=
  v.map (·.1)

/-- The meaning of a written word. -/
def lookup? {α : Type} (v : Vocabulary α) (written : Text) : Option α :=
  v.lookup (asciiUpper written)

/-- The words whose meaning passes a test. -/
def only {α : Type} (v : Vocabulary α) (test : α → Bool) : Vocabulary α :=
  v.filter fun entry => test entry.2

end Vocabulary

/-- The words that are phrases on their own. -/
def nearWords : Vocabulary NearWord := [
  ("YESTERDAY".toList, .yesterday),
  ("TOMORROW".toList, .tomorrow),
  ("NOW".toList, .now),
  ("TODAY".toList, .today)]

/-- The words before a weekday or a month. -/
def qualifiers : Vocabulary Qualifier := [
  ("NEXT".toList, .next),
  ("LAST".toList, .last),
  ("THIS".toList, .this),
  ("PREVIOUS".toList, .previous)]

/-- The words before a unit. -/
def directions : Vocabulary Direction := [
  ("NEXT".toList, .next),
  ("LAST".toList, .last)]

/-- The words for the ends of a container. -/
def edges : Vocabulary Edge := [
  ("FIRST".toList, .first),
  ("LAST".toList, .last)]

/-- The names of the weekdays. -/
def weekdays : Vocabulary Weekday := [
  ("SUNDAY".toList, .sun),
  ("MONDAY".toList, .mon),
  ("TUESDAY".toList, .tue),
  ("WEDNESDAY".toList, .wed),
  ("THURSDAY".toList, .thu),
  ("FRIDAY".toList, .fri),
  ("SATURDAY".toList, .sat)]

/-- The names of the months and their short forms, with the number of the
month. -/
def months : Vocabulary UInt32 := [
  ("JANUARY".toList, 1), ("JAN".toList, 1),
  ("FEBRUARY".toList, 2), ("FEB".toList, 2),
  ("MARCH".toList, 3), ("MAR".toList, 3),
  ("APRIL".toList, 4), ("APR".toList, 4),
  ("MAY".toList, 5),
  ("JUNE".toList, 6),
  ("JULY".toList, 7),
  ("AUGUST".toList, 8), ("AUG".toList, 8),
  ("SEPTEMBER".toList, 9), ("SEPT".toList, 9), ("SEP".toList, 9),
  ("OCTOBER".toList, 10), ("OCT".toList, 10),
  ("NOVEMBER".toList, 11), ("NOV".toList, 11),
  ("DECEMBER".toList, 12), ("DEC".toList, 12)]

/-- The names of the units. -/
def units : Vocabulary TimeUnit := [
  ("MILLISECOND".toList, .millisecond),
  ("SECOND".toList, .second),
  ("MINUTE".toList, .minute),
  ("HOUR".toList, .hour),
  ("DAY".toList, .day),
  ("WEEK".toList, .week),
  ("MONTH".toList, .month),
  ("YEAR".toList, .year)]

end TimePhrase
