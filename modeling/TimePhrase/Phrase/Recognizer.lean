/-
# Recognizers

Each of the six recognizers owns one grammar. It claims a text as a whole or
not at all, and what it has read becomes a capture: the form of the phrase with
the meaning of its words. A word that fits the pattern by its letters but is
not in the vocabulary as it is written, such as one with a long s, gives no
capture.

Key definitions: `Capture`, `Recognizer`, `Recognizer.all`,
`Recognizer.pattern`, `Recognizer.capture?`, `Recognizer.recognize`,
`Capture.recognizer`.
-/
import TimePhrase.Phrase.Pattern
import TimePhrase.Phrase.Vocabulary

namespace TimePhrase

/-! ### Captures -/

/-- A phrase that was understood. -/
inductive Capture where
  | near (word : NearWord)
  | dayOfWeek (qualifier : Option Qualifier) (weekday : Weekday)
  | changeUnit (direction : Direction) (unit : TimeUnit)
  /-- The month is known by its number. -/
  | month (qualifier : Option Qualifier) (number : UInt32)
  | firstLastWeek (edge : Edge) (container : TimeUnit)
  | firstLastUnit (edge : Edge) (unit container : TimeUnit)
  deriving DecidableEq, Repr

/-- The forms a phrase can take. -/
inductive Recognizer where
  | nearTime | dayOfWeek | changeUnit | month | firstLastWeek | firstLastUnit
  deriving DecidableEq, Repr

/-- The recognizer whose phrases give captures of this kind. -/
def Capture.recognizer : Capture → Recognizer
  | near _ => .nearTime
  | dayOfWeek .. => .dayOfWeek
  | changeUnit .. => .changeUnit
  | month .. => .month
  | firstLastWeek .. => .firstLastWeek
  | firstLastUnit .. => .firstLastUnit

namespace Recognizer

/-- All recognizers in the order in which they are tried, the most common
phrases first. -/
def all : List Recognizer :=
  [nearTime, dayOfWeek, changeUnit, month, firstLastWeek, firstLastUnit]

theorem mem_all (r : Recognizer) : r ∈ all := by
  cases r <;> decide

/-- The form of the phrases, for people. -/
def name : Recognizer → String
  | nearTime => "now/today/tomorrow/yesterday"
  | dayOfWeek => "[next|last|this|previous] <weekday>"
  | changeUnit => "next/last <unit>"
  | month => "[next|last|this|previous] <month>"
  | firstLastWeek => "first/last week of <month|year>"
  | firstLastUnit => "first/last <unit> of <container>"

/-! ### Grammars -/

/-- The words that tie a unit to its container. -/
def connectors : List Text := ["OF".toList, "IN".toList]

/-- The article a container may have. -/
def articles : List Text := ["THE".toList]

/-- The grammar of a recognizer. -/
def pattern : Recognizer → Pattern
  | nearTime => [.required nearWords.words]
  | dayOfWeek => [.maybe qualifiers.words, .required weekdays.words]
  | changeUnit => [.required directions.words, .required units.words]
  | month => [.maybe qualifiers.words, .required months.words]
  | firstLastWeek => [
    .required edges.words,
    .required (units.only (· = .week)).words,
    .required connectors,
    .maybe articles,
    .required (units.only fun u => u = .month || u = .year).words]
  | firstLastUnit => [
    .required edges.words,
    .required (units.only fun u => u ≠ .week && u ≠ .year).words,
    .required connectors,
    .maybe articles,
    .required (units.only (· ≠ .millisecond)).words]

/-- The capture for the words read off a text. In the last form the unit has
to be finer than its container. -/
def capture? : Recognizer → Reading → Option Capture
  | nearTime, [some word] => do
    return .near (← nearWords.lookup? word)
  | dayOfWeek, [qualifier, some day] => do
    return .dayOfWeek (← qualifier.mapM qualifiers.lookup?) (← weekdays.lookup? day)
  | changeUnit, [some direction, some unit] => do
    return .changeUnit (← directions.lookup? direction) (← units.lookup? unit)
  | month, [qualifier, some name] => do
    return .month (← qualifier.mapM qualifiers.lookup?) (← months.lookup? name)
  | firstLastWeek, [some edge, _, _, _, some container] => do
    return .firstLastWeek (← edges.lookup? edge) (← units.lookup? container)
  | firstLastUnit, [some edge, some unit, _, _, some container] => do
    let edge ← edges.lookup? edge
    let unit ← units.lookup? unit
    let container ← units.lookup? container
    if unit.isFinerThan container then some (.firstLastUnit edge unit container) else none
  | _, _ => none

/-- What the recognizer makes of a whole text. Blanks at the ends of the text
are not cut off here. -/
def recognize (recognizer : Recognizer) (text : Text) : Option Capture :=
  recognizer.pattern.read? text >>= recognizer.capture?

end Recognizer

end TimePhrase
