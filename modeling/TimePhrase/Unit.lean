/-
# Units of time

The eight units a phrase can name. They are ordered by containment: a year
holds months, a month holds weeks, and so on down to the millisecond.

Key definitions: `TimeUnit`, `TimeUnit.hierarchy`, `TimeUnit.rank`,
`TimeUnit.isFinerThan`, `TimeUnit.name`.
-/

namespace TimePhrase

/-- A unit of time. -/
inductive TimeUnit where
  | year | month | week | day | hour | minute | second | millisecond
  deriving DecidableEq, Repr

namespace TimeUnit

/-- The units from the coarsest to the finest: each is contained in those
before it. -/
def hierarchy : List TimeUnit :=
  [year, month, week, day, hour, minute, second, millisecond]

/-- The position of a unit in the hierarchy, 0 for the year. -/
def rank : TimeUnit → Nat
  | year => 0
  | month => 1
  | week => 2
  | day => 3
  | hour => 4
  | minute => 5
  | second => 6
  | millisecond => 7

/-- Whether the unit comes after `other` in the hierarchy. -/
def isFinerThan (unit other : TimeUnit) : Bool :=
  other.rank < unit.rank

/-- The English name, in lower case. -/
def name : TimeUnit → String
  | year => "year"
  | month => "month"
  | week => "week"
  | day => "day"
  | hour => "hour"
  | minute => "minute"
  | second => "second"
  | millisecond => "millisecond"

theorem hierarchy_getElem_rank (unit : TimeUnit) : hierarchy[unit.rank]? = some unit := by
  cases unit <;> rfl

end TimeUnit

end TimePhrase
