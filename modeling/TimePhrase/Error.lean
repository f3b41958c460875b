/-
# Why a phrase has no time

Key definitions: `ResolveError`, `ResolveError.message`.
-/
import TimePhrase.Unit

namespace TimePhrase

/-- The two things a resolution starts from. -/
inductive Argument where
  | phrase | reference
  deriving DecidableEq, Repr

/-- The name of an argument in messages. -/
def Argument.name : Argument → String
  | phrase => "phrase"
  | reference => "reference"

/-- The ways in which a resolution fails. -/
inductive ResolveError where
  /-- A needed argument was not given. -/
  | missing (argument : Argument)
  /-- No recognizer claims the phrase. -/
  | notRecognized
  /-- The unit cannot be set to an edge of the container. -/
  | unreachable (unit container : TimeUnit)
  /-- Weeks are numbered within months and years only. -/
  | noWeeksWithin (container : TimeUnit)
  /-- The result lies outside the supported years. -/
  | outOfRange
  deriving DecidableEq, Repr

/-- The text of an error. -/
def ResolveError.message : ResolveError → String
  | missing argument => argument.name ++ " is null"
  | notRecognized => "input not a recognized pattern"
  | unreachable unit container =>
    "usage error: unable to change unit " ++ unit.name ++ " within " ++ container.name
  | noWeeksWithin container => "usage error: weeks cannot be set within a " ++ container.name
  | outOfRange => "resolved time is outside the supported calendar range"

end TimePhrase
