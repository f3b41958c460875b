/-
# Buckets

Before any grammar is tried, a phrase is searched for the letters that each
grammar cannot do without. Each find puts the phrase into a bucket, and a
recognizer is tried only on the phrases of its bucket. The search is for exact
letters, so it is meant for normalized phrases.

Key definitions: `normalize`, `Bucket`, `Bucket.holds`, `scan`,
`Recognizer.bucket`, `admits`.
-/
import TimePhrase.Phrase.Recognizer
import TimePhrase.Text.Upper

namespace TimePhrase

/-- A phrase without blanks at its ends and in upper case; nothing else is
changed. -/
def normalize (phrase : Text) : Text :=
  upper (trim phrase)

/-- What a phrase may be about. -/
inductive Bucket where
  | nearish | weekdayish | shiftish | monthish | edgeish
  deriving DecidableEq, Repr

namespace Bucket

/-- The buckets in order. -/
def all : List Bucket := [nearish, weekdayish, shiftish, monthish, edgeish]

/-- The name of a bucket in reports. -/
def name : Bucket → String
  | nearish => "NEARISH"
  | weekdayish => "WEEKDAYISH"
  | shiftish => "SHIFTISH"
  | monthish => "MONTHISH"
  | edgeish => "EDGEISH"

/-- The bit of a bucket in a set of buckets. -/
def bit : Bucket → Nat
  | nearish => 1
  | weekdayish => 2
  | shiftish => 4
  | monthish => 8
  | edgeish => 16

end Bucket

/-- Whether a word stands somewhere in a text. -/
def occurs (word : Text) : Text → Bool
  | [] => word.isEmpty
  | c :: rest => word.isPrefixOf (c :: rest) || occurs word rest

/-- Letters of which each name of a month has some. -/
def monthStems : List Text :=
  ["JAN".toList, "FEB".toList, "MAR".toList, "APR".toList, "MAY".toList, "JUN".toList,
    "JUL".toList, "AUG".toList, "SEP".toList, "OCT".toList, "NOV".toList, "DEC".toList]

/-- Whether a phrase belongs into a bucket. -/
def Bucket.holds (bucket : Bucket) (phrase : Text) : Bool :=
  match bucket with
  | nearish => nearWords.words.any (occurs · phrase)
  | weekdayish => occurs "DAY".toList phrase
  | shiftish => directions.words.any (·.isPrefixOf phrase)
  | monthish => monthStems.any (occurs · phrase)
  | edgeish => edges.words.any (·.isPrefixOf phrase)

/-- The buckets of a phrase. -/
def scan (phrase : Text) : List Bucket :=
  Bucket.all.filter (·.holds phrase)

/-- The bucket of the phrases that a recognizer may claim. -/
def Recognizer.bucket : Recognizer → Bucket
  | nearTime => .nearish
  | dayOfWeek => .weekdayish
  | changeUnit => .shiftish
  | month => .monthish
  | firstLastWeek | firstLastUnit => .edgeish

/-- Whether the buckets of a phrase leave a recognizer to be tried. -/
def admits (buckets : List Bucket) (recognizer : Recognizer) : Bool :=
  buckets.contains recognizer.bucket

end TimePhrase
