/-
# Resolving a phrase

A phrase is normalized and offered to the recognizers in order; the first that
claims it gives a capture, and the capture is applied to the reference. The
first capture wins and nothing is tried again. `run` keeps a record of all
this, and `resolve` the result alone.

Key definitions: `occurrenceOffset`, `Capture.apply`, `Attempt`, `Run`,
`tryRecognizers`, `run`, `resolve`, `resolveGiven`, `resolveChain`.
-/
import TimePhrase.Calendar.Week
import TimePhrase.Phrase.Bucket

namespace TimePhrase

/-! ### Applying a capture -/

/-- The way from `current` to the chosen occurrence of `target` on a cycle of
`period` positions. A look back always goes back, by a full period from the
target itself; a look ahead never goes back, and goes a full period ahead from
the target itself with `NEXT` only. -/
def occurrenceOffset (target current period : Int) (qualifier : Option Qualifier) : Int :=
  let difference := target - current
  if qualifier.any Qualifier.pointsBack then
    if 0 ≤ difference then difference - period else difference
  else if difference < 0 ∨ (difference = 0 ∧ qualifier = some .next) then difference + period
  else difference

/-- The week setter for the week at an edge of a month or a year. The last
week of a month is the fifth, so that a sixth, which is always partial, is
never taken. -/
def moveToEdgeWeek (dt : DateTime) (edge : Edge) (container : TimeUnit) :
    Except ResolveError DateTime :=
  let moved : Except ResolveError (Option DateTime) := match container, edge with
    | .month, .first => .ok (dt.setWeekOfMonth? 1)
    | .month, .last => .ok (dt.setWeekOfMonth? (maxWeekOfMonth - 1))
    | .year, .first => .ok (dt.setWeekOfYear? 1)
    | .year, .last => .ok (dt.setWeekOfYear? maxWeekOfYear)
    | _, _ => .error (.noWeeksWithin container)
  moved.bind fun result => result.elim (.error .outOfRange) .ok

/-- The date-time that a capture stands for, seen from a reference. The number
of a month is a word of 32 bits and is taken as signed. -/
def Capture.apply (capture : Capture) (reference : DateTime) : Except ResolveError DateTime :=
  match capture with
  | near .now | near .today => .ok reference
  | near .tomorrow => reference.shift 1 .day
  | near .yesterday => reference.shift (-1) .day
  | dayOfWeek qualifier weekday =>
    reference.shift (occurrenceOffset weekday.number reference.date.dayOfWeek 7 qualifier) .day
  | changeUnit direction unit => reference.shift direction.sign unit
  | month qualifier number =>
    reference.shift (occurrenceOffset number.toInt32.toInt reference.date.month 12 qualifier) .month
  | firstLastWeek edge container => moveToEdgeWeek reference edge container
  | firstLastUnit edge unit container => reference.moveToEdge edge unit container

/-! ### Trying the recognizers -/

/-- What became of a recognizer. -/
inductive Outcome where
  /-- The buckets ruled it out. -/
  | skipped
  /-- It did not claim the phrase. -/
  | noMatch
  /-- It claimed the phrase. -/
  | matched
  deriving DecidableEq, Repr

/-- A recognizer with what became of it. -/
structure Attempt where
  recognizer : Recognizer
  outcome : Outcome
  deriving DecidableEq, Repr

/-- The attempts on a normalized phrase, up to the first match, and its
capture. -/
def tryRecognizers (buckets : List Bucket) (phrase : Text) :
    List Recognizer → List Attempt × Option Capture
  | [] => ([], none)
  | recognizer :: others =>
    if admits buckets recognizer then
      match recognizer.recognize phrase with
      | some capture => ([⟨recognizer, .matched⟩], some capture)
      | none =>
        let (attempts, capture) := tryRecognizers buckets phrase others
        (⟨recognizer, .noMatch⟩ :: attempts, capture)
    else
      let (attempts, capture) := tryRecognizers buckets phrase others
      (⟨recognizer, .skipped⟩ :: attempts, capture)

/-- The record of a resolution. -/
structure Run where
  normalized : Text
  buckets : List Bucket
  attempts : List Attempt
  capture : Option Capture
  result : Except ResolveError DateTime

/-- Resolves a phrase with the recognizers in the given order. -/
def runOver (recognizers : List Recognizer) (phrase : Text) (reference : DateTime) : Run :=
  let normalized := normalize phrase
  let buckets := scan normalized
  let (attempts, capture) := tryRecognizers buckets normalized recognizers
  let result := match capture with
    | some capture => capture.apply reference
    | none => .error .notRecognized
  { normalized, buckets, attempts, capture, result }

/-- Resolves a phrase and keeps the record. -/
def run (phrase : Text) (reference : DateTime) : Run :=
  runOver Recognizer.all phrase reference

/-! ### Results alone -/

/-- The date-time that a phrase stands for, seen from a reference. -/
def resolve (phrase : String) (reference : DateTime) : Except ResolveError DateTime :=
  (run phrase.toList reference).result

/-- As `resolve`, for a phrase and a reference that may be missing. A missing
phrase is noticed first. -/
def resolveGiven (phrase : Option String) (reference : Option DateTime) :
    Except ResolveError DateTime :=
  match phrase, reference with
  | none, _ => .error (.missing .phrase)
  | some _, none => .error (.missing .reference)
  | some phrase, some reference => resolve phrase reference

/-- The results of phrases that follow one another, each with the reference
for the next one: a success moves the reference, a failure leaves it. -/
def resolveChain : List String → DateTime → List (Except ResolveError DateTime × DateTime)
  | [], _ => []
  | phrase :: phrases, reference =>
    let result := resolve phrase reference
    let state := match result with
      | .ok moved => moved
      | .error _ => reference
    (result, state) :: resolveChain phrases state

end TimePhrase
