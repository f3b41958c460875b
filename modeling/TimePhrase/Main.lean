/-
# The command line program

Reads the arguments, the standard input and the clock, and prints what
`TimePhrase.Command.Run` makes of them.
-/
import Std.Time.Format
import TimePhrase.Command.Run

namespace TimePhrase

/-- The time on the local clock, or in UTC where no zone is known. -/
def localClock : IO Std.Time.PlainDateTime := do
  try Std.Time.PlainDateTime.now
  catch _ =>
    let instant ← Std.Time.Timestamp.now
    return .ofWallTime (.ofTimestamp instant Std.Time.TimeZone.Offset.zero)

/-- The local time as a date-time; the epoch if the clock is off the calendar. -/
def localNow : IO DateTime := do
  let clock ← localClock
  let date := clock.date
  let time := clock.time
  let found := DateTime.ofFields? date.year date.month.val.toNat date.day.val.toNat
    time.hour.val.toNat time.minute.val.toNat time.second.val.toNat time.nanosecond.val.toNat
  return found.getD DateTime.epoch

/-- Carries out a request: the input is read only where it is needed. -/
def Request.perform (request : Request) : IO Output := do
  let stdin ← IO.getStdin
  let input ← if !request.words.isEmpty || (← stdin.isTty) then pure none
    else some <$> stdin.readToEnd
  let phrase := request.phrase input
  let reference ← match request.reference with
    | some reference => pure reference
    | none => localNow
  let start ← IO.monoNanosNow
  let record ← IO.lazyPure fun _ => run phrase.toList reference
  let stop ← IO.monoNanosNow
  let terminal ← (← IO.getStdout).isTty
  return request.conclude phrase reference record terminal (stop - start)

/-- Carries out the arguments. -/
def performArguments (arguments : List String) : IO Output :=
  match readArguments arguments with
  | .error halt => pure halt.output
  | .ok request => do
    try request.perform
    catch _ =>
      return ⟨1, "", "error: failed to read stdin: stream did not contain valid UTF-8\n"⟩

end TimePhrase

def main (arguments : List String) : IO UInt32 := do
  let output ← TimePhrase.performArguments arguments
  (← IO.getStdout).putStr output.stdout
  (← IO.getStderr).putStr output.stderr
  return output.code.toUInt32
