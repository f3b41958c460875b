/-
# Running the command

The command takes its phrase from the words of its arguments, else from its
standard input, and stands for `NOW` where neither gives one. It prints the
resolved date-time, or with `--verbose` the report. The exit code is 0 on
success, 2 for wrong arguments and phrases that are not recognized, and 1 for
phrases without a supported date-time.

`execute` is the whole command as a function of its surroundings.

Key definitions: `Surroundings`, `Output`, `Request.phrase`,
`Request.conclude`, `Halt.output`, `execute`.
-/
import TimePhrase.Command.Arguments
import TimePhrase.Command.Report
import TimePhrase.Text.Plain
import TimePhrase.Text.Quoted

namespace TimePhrase

/-- The name and the version of the command. -/
def versionLine : String := "tellwhen 0.1.0"

/-- The output format unless another one is asked for. -/
def usualFormat : Text := "%Y-%m-%d %H:%M:%S%.3f".toList

/-- What the command finds where it runs. -/
structure Surroundings where
  /-- What is piped in, unless the input is a terminal. -/
  input : Option String
  /-- The current local time. -/
  now : DateTime
  /-- Whether the output goes to a terminal. -/
  terminal : Bool
  /-- The nanoseconds that the resolution takes. -/
  elapsed : Nat

/-- What the command leaves behind. -/
structure Output where
  code : Nat
  stdout : String
  stderr : String
  deriving DecidableEq, Repr

namespace Request

/-- The words joined by spaces; without words the input, unless it is blank. -/
def phrase (request : Request) (input : Option String) : String :=
  if request.words.isEmpty then
    match input with
    | some text => if (trim text.toList).isEmpty then "NOW" else text
    | none => "NOW"
  else " ".intercalate request.words

/-- The format of the output. -/
def outputFormat (request : Request) : Text :=
  request.format.getD usualFormat

/-- Whether the report is to be in color. -/
def wantsColor (request : Request) (terminal : Bool) : Bool :=
  if .color ∈ request.flags then true
  else if .noColor ∈ request.flags then false
  else terminal

/-- Whether the report is asked for. -/
def isVerbose (request : Request) : Bool :=
  .verbose ∈ request.flags

end Request

/-! ### Results -/

/-- The exit code of a failure: 2 for a phrase that was not understood, 1 for
one without a result. -/
def ResolveError.exitCode : ResolveError → Nat
  | missing _ | notRecognized => 2
  | unreachable .. | noWeeksWithin _ | outOfRange => 1

/-- The line about a failure, with the trimmed phrase in quotes. -/
def ResolveError.line (e : ResolveError) (phrase : Text) : String :=
  let quotedPhrase := String.ofList (quoted (trim phrase))
  match e with
  | missing _ | notRecognized => "error: " ++ e.message ++ ": " ++ quotedPhrase ++ "\n"
  | unreachable .. | noWeeksWithin _ | outOfRange =>
    "error: failed to resolve " ++ quotedPhrase ++ ": " ++ e.message ++ "\n"

/-- The line about a format that cannot show a date-time. -/
def unshownLine (value : DateTime) (format : Text) : String :=
  "error: cannot render " ++ value.shown "%Y-%m-%d %H:%M:%S%.f".toList ++ " with format " ++
    String.ofList (quoted format) ++ "\n"

/-- The output for a resolved phrase. The report comes before the outcome and
takes the place of the value. -/
def Request.conclude (request : Request) (phrase : String) (reference : DateTime) (run : Run)
    (terminal : Bool) (elapsed : Nat) : Output :=
  let format := request.outputFormat
  let told :=
    if request.isVerbose then
      report phrase.toList run reference format (request.wantsColor terminal) elapsed
    else ""
  match run.result with
  | .error e => ⟨e.exitCode, told, e.line phrase.toList⟩
  | .ok value =>
    if request.isVerbose then ⟨0, told, ""⟩
    else match value.render? format with
      | some text => ⟨0, String.ofList text ++ "\n", ""⟩
      | none => ⟨1, "", unshownLine value format⟩

/-- The lines that `--help` prints. -/
def helpLines : List String := [
  "Resolve a relative time phrase (\"next thursday\", \"last day of the month\") into a date-time",
  "",
  "Usage: tellwhen [OPTIONS] [PHRASE]...",
  "",
  "Arguments:",
  "  [PHRASE]...  Phrase to resolve. Read from stdin when omitted and stdin is piped",
  "",
  "Options:",
  "      --reference <REFERENCE>  Reference time, YYYY-MM-DDTHH:MM:SS with optional fraction",
  "      --format <FORMAT>        strftime-style output format",
  "  -v, --verbose                Print the recognizer trace instead of just the value",
  "      --color                  Force ANSI color output in the verbose report",
  "      --no-color               Disable ANSI color output",
  "  -h, --help                   Print help",
  "  -V, --version                Print version"]

/-- The painted text about wrong arguments, with a pointer to the help. -/
def ArgumentError.notice (e : ArgumentError) : String :=
  Paint.bold.apply true (Paint.red.apply true "error:") ++ " " ++ e.message ++
    "\n\nFor more information, try '" ++ Paint.bold.apply true "--help" ++ "'.\n"

/-- The output when the reading of the arguments stops early. The texts about
wrong arguments are stripped of their paint as a whole, so that a control
sequence which an argument leaves open takes in what follows it. -/
def Halt.output : Halt → Output
  | notice .help => ⟨0, String.join (helpLines.map (· ++ "\n")), ""⟩
  | notice .version => ⟨0, versionLine ++ "\n", ""⟩
  | error e => ⟨2, "", String.ofList (plain e.notice.toList)⟩

/-- The whole command. -/
def execute (arguments : List String) (around : Surroundings) : Output :=
  match readArguments arguments with
  | .error halt => halt.output
  | .ok request =>
    let phrase := request.phrase around.input
    let reference := request.reference.getD around.now
    request.conclude phrase reference (run phrase.toList reference) around.terminal around.elapsed

end TimePhrase
