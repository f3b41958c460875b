/-
# The report on a run

The report shows the phrase, what the recognizers made of it, and the result,
in color on request. Its texts are the output of the command.

Key definitions: `Capture.shown`, `bucketsShown`, `elapsedShown`, `report`.
-/
import TimePhrase.Format.Directive
import TimePhrase.Resolve
import TimePhrase.Text.Paint

namespace TimePhrase

/-! ### Values as text -/

/-- The name of a qualifier. -/
def Qualifier.name : Qualifier → String
  | next => "Next"
  | last => "Last"
  | this => "This"
  | previous => "Previous"

/-- The name of a direction. -/
def Direction.name : Direction → String
  | next => "Next"
  | last => "Last"

/-- The name of an edge. -/
def Edge.name : Edge → String
  | first => "First"
  | last => "Last"

/-- The name of a word that is a phrase on its own. -/
def NearWord.name : NearWord → String
  | now => "Now"
  | today => "Today"
  | tomorrow => "Tomorrow"
  | yesterday => "Yesterday"

/-- The name of a unit with a capital. -/
def TimeUnit.title (unit : TimeUnit) : String :=
  unit.name.capitalize

/-- The name of a form of phrase. -/
def Recognizer.title : Recognizer → String
  | nearTime => "NearTime"
  | dayOfWeek => "DayOfWeek"
  | changeUnit => "ChangeUnit"
  | month => "Month"
  | firstLastWeek => "FirstLastWeek"
  | firstLastUnit => "FirstLastUnit"

/-- A qualifier that may be missing. -/
def qualifierShown : Option Qualifier → String
  | none => "None"
  | some qualifier => "Some(" ++ qualifier.name ++ ")"

/-- A title with named values between braces. -/
def fieldsShown (title : String) (fields : List (String × String)) : String :=
  title ++ " \x7b " ++ ", ".intercalate (fields.map fun (name, value) => name ++ ": " ++ value) ++
    " \x7d"

/-- A capture with its values. -/
def Capture.shown : Capture → String
  | near word => "Near(" ++ word.name ++ ")"
  | dayOfWeek qualifier weekday =>
    fieldsShown "DayOfWeek"
      [("qualifier", qualifierShown qualifier), ("weekday", weekday.shortName)]
  | changeUnit direction unit =>
    fieldsShown "ChangeUnit" [("direction", direction.name), ("unit", unit.title)]
  | month qualifier number =>
    fieldsShown "Month"
      [("qualifier", qualifierShown qualifier), ("month", toString number.toNat)]
  | firstLastWeek edge container =>
    fieldsShown "FirstLastWeek" [("edge", edge.name), ("container", container.title)]
  | firstLastUnit edge unit container =>
    fieldsShown "FirstLastUnit"
      [("edge", edge.name), ("unit", unit.title), ("container", container.title)]

/-- The buckets of a phrase. -/
def bucketsShown (buckets : List Bucket) : String :=
  if buckets.isEmpty then "BucketMask(0x0)"
  else "BucketMask(" ++ " | ".intercalate (buckets.map Bucket.name) ++ ")"

/-- A number of thousandths without the zeros at its end. -/
def thousandthsShown (whole rest places : Nat) : String :=
  let digits := (padded places rest .zero false).reverse.dropWhile (· = '0')
  toString whole ++ if digits.isEmpty then "" else "." ++ String.ofList digits.reverse

/-- A duration in the largest unit of which it has one at least. -/
def elapsedShown (nanos : Nat) : String :=
  if nanos < 1000 then toString nanos ++ "ns"
  else if nanos < 1000000 then thousandthsShown (nanos / 1000) (nanos % 1000) 3 ++ "µs"
  else if nanos < 1000000000 then thousandthsShown (nanos / 1000000) (nanos % 1000000) 6 ++ "ms"
  else thousandthsShown (nanos / 1000000000) (nanos % 1000000000) 9 ++ "s"

/-! ### The report -/

/-- What became of a recognizer. -/
def Outcome.shown (color : Bool) : Outcome → String
  | matched => Paint.green.apply color "✓ matched"
  | noMatch => Paint.dim.apply color "✗ no match"
  | skipped => Paint.dim.apply color "· skipped"

/-- The line of an attempt, by its place in the order of attempts. -/
def Attempt.shown (color : Bool) (attempt : Attempt) (place : Nat) : String :=
  "  " ++ Paint.gray.apply color ("[" ++ toString place ++ "]") ++ " " ++
    Paint.blue.apply color attempt.recognizer.name ++ " " ++ attempt.outcome.shown color

/-- The heading of a section. -/
def heading (color : Bool) (title : String) : String :=
  Paint.gray.apply color ("━━━ " ++ title ++ " ━━━")

/-- A date-time in a format; the format is one that shows date-times. -/
def DateTime.shown (dt : DateTime) (format : Text) : String :=
  String.ofList ((dt.render? format).getD [])

/-- The lines of the report on a run. -/
def reportLines (phrase : Text) (run : Run) (reference : DateTime) (format : Text) (color : Bool)
    (elapsed : Nat) : List String :=
  let captureLines := match run.capture with
    | some capture =>
      ["      " ++ Paint.dim.apply color "capture:" ++ " " ++ Paint.cyan.apply color capture.shown]
    | none => []
  let result := match run.result with
    | .ok value => Paint.bold.apply color (Paint.green.apply color (value.shown format))
    | .error e => Paint.red.apply color e.message
  ["",
    Paint.bold.apply color
      (Paint.cyan.apply color ("⚙  Resolving: \"" ++ String.ofList (trim phrase) ++ "\"")),
    "  " ++ Paint.dim.apply color "normalized:" ++ " " ++
      Paint.blue.apply color (String.ofList run.normalized) ++ "  " ++
      Paint.dim.apply color "│ reference:" ++ " " ++
      Paint.yellow.apply color (reference.shown format),
    "  " ++ Paint.dim.apply color "buckets:" ++ " " ++
      Paint.gray.apply color (bucketsShown run.buckets),
    "",
    heading color "Recognizers"] ++
  run.attempts.mapIdx (fun place attempt => attempt.shown color place) ++ captureLines ++
  ["", heading color "Result", "  " ++ result,
    "", heading color "Timing",
    "  Total: " ++ Paint.green.apply color (elapsedShown elapsed),
    ""]

/-- The report on a run. -/
def report (phrase : Text) (run : Run) (reference : DateTime) (format : Text) (color : Bool)
    (elapsed : Nat) : String :=
  String.join ((reportLines phrase run reference format color elapsed).map (· ++ "\n"))

end TimePhrase
