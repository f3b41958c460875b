/-
# The arguments of the command

The arguments are read from left to right. An option with a value takes it
from the same argument, after an equals sign, or from the next one, which must
not look like an option. A value in an argument of its own is looked at only
when the next option or word is reached or the arguments end; unknown options,
and values given to options without one, are errors at once. Each option may
be given once. Words may stand between options, and after `--` all arguments
are words.

Key definitions: `ValueOption`, `Flag`, `Request`, `ArgumentError`,
`ArgumentError.message`, `Scanner`, `Scanner.step`, `readArguments`.
-/
import TimePhrase.Format.Directive
import TimePhrase.Format.Reference
import TimePhrase.Text.Paint

namespace TimePhrase

/-! ### Options -/

/-- The options that take a value. -/
inductive ValueOption where
  | reference | format
  deriving DecidableEq, Repr

/-- The options that are given or not. -/
inductive Flag where
  | verbose | color | noColor
  deriving DecidableEq, Repr

/-- The options that ask for a text about the command itself. -/
inductive Notice where
  | help | version
  deriving DecidableEq, Repr

/-- An option with a name. -/
inductive CommandOption where
  | value (option : ValueOption)
  | flag (flag : Flag)
  | notice (notice : Notice)
  deriving DecidableEq, Repr

/-- The long name of an option. -/
def CommandOption.name : CommandOption → String
  | value .reference => "reference"
  | value .format => "format"
  | flag .verbose => "verbose"
  | flag .color => "color"
  | flag .noColor => "no-color"
  | notice .help => "help"
  | notice .version => "version"

/-- An option as messages show it, with the kind of value it takes. -/
def CommandOption.shown (option : CommandOption) : String :=
  "--" ++ option.name ++ match option with
    | value .reference => " <REFERENCE>"
    | value .format => " <FORMAT>"
    | _ => ""

/-- All options. -/
def CommandOption.all : List CommandOption :=
  [value .reference, value .format, flag .verbose, flag .color, flag .noColor,
    notice .help, notice .version]

/-- The option with a long name. -/
def CommandOption.ofName? (name : Text) : Option CommandOption :=
  all.find? (·.name.toList == name)

/-- The option with a letter. -/
def CommandOption.ofLetter? : Char → Option CommandOption
  | 'v' => some (flag .verbose)
  | 'h' => some (notice .help)
  | 'V' => some (notice .version)
  | _ => none

/-! ### Results -/

/-- What the command is asked to do. -/
structure Request where
  reference : Option DateTime := none
  /-- The format of the output, if not the usual one. -/
  format : Option Text := none
  /-- The flags in the order in which they were given. -/
  flags : List Flag := []
  words : List String := []

/-- What is wrong with the arguments. -/
inductive ArgumentError where
  | unexpected (argument : Text)
  | unexpectedValue (value : Text) (option : CommandOption)
  | valueMissing (option : ValueOption)
  | invalidValue (value : Text) (option : ValueOption) (reason : String)
  | repeated (option : CommandOption)
  | conflict (first second : Flag)
  deriving DecidableEq, Repr

/-- A text that a message points at. -/
def pointedAt (text : String) : String :=
  "'" ++ Paint.yellow.apply true text ++ "'"

/-- The text of an error about the arguments, painted: what is wrong is set
off, and so is the option that a wrong value was given to. -/
def ArgumentError.message : ArgumentError → String
  | unexpected argument => "unexpected argument " ++ pointedAt (String.ofList argument) ++ " found"
  | unexpectedValue value option =>
    "unexpected value " ++ pointedAt (String.ofList value) ++ " for '" ++
      Paint.bold.apply true option.shown ++ "' found; no more were expected"
  | valueMissing option =>
    "a value is required for " ++ pointedAt (CommandOption.value option).shown ++
      " but none was supplied"
  | invalidValue value option reason =>
    "invalid value " ++ pointedAt (String.ofList value) ++ " for '" ++
      Paint.bold.apply true (CommandOption.value option).shown ++ "': " ++ reason
  | repeated option =>
    "the argument " ++ pointedAt option.shown ++ " cannot be used multiple times"
  | conflict first second =>
    "the argument " ++ pointedAt (CommandOption.flag first).shown ++ " cannot be used with " ++
      pointedAt (CommandOption.flag second).shown

/-- Why the reading of the arguments stops early. -/
inductive Halt where
  | notice (notice : Notice)
  | error (error : ArgumentError)
  deriving DecidableEq, Repr

/-! ### Reading the arguments -/

/-- A request that grows, and the option whose value is not settled yet, with
the value if there is one already. -/
structure Scanner where
  request : Request := {}
  pending : Option (ValueOption × Option Text) := none

namespace Scanner

/-- Takes a value for an option. -/
def assign (s : Scanner) (option : ValueOption) (value : Text) : Except Halt Scanner :=
  match option with
  | .reference =>
    if s.request.reference.isSome then .error (.error (.repeated (.value option)))
    else match readReference? value with
      | some reference => .ok { s with request.reference := reference }
      | none => .error (.error (.invalidValue value option (referenceMessage value)))
  | .format =>
    if s.request.format.isSome then .error (.error (.repeated (.value option)))
    else match checkFormat value with
      | .ok format => .ok { s with request.format := some format }
      | .error e => .error (.error (.invalidValue value option (e.message value)))

/-- Settles the option whose value is open. -/
def settle (s : Scanner) : Except Halt Scanner :=
  match s.pending with
  | none => .ok s
  | some (option, none) => .error (.error (.valueMissing option))
  | some (option, some value) => ({ s with pending := none } : Scanner).assign option value

/-- Takes a flag. -/
def raise (s : Scanner) (flag : Flag) : Except Halt Scanner := do
  let s ← s.settle
  if flag ∈ s.request.flags then .error (.error (.repeated (.flag flag)))
  else .ok { s with request.flags := s.request.flags ++ [flag] }

/-- Takes an option that came without a value in the same argument. -/
def takeOption (s : Scanner) (option : CommandOption) : Except Halt Scanner :=
  match option with
  | .value option => do
    let s ← s.settle
    return { s with pending := some (option, none) }
  | .flag flag => s.raise flag
  | .notice notice => do
    let _ ← s.settle
    .error (.notice notice)

/-- Takes an option with a value in the same argument. -/
def takeOptionWith (s : Scanner) (option : CommandOption) (value : Text) : Except Halt Scanner :=
  match option with
  | .value option => do
    let s ← s.settle
    s.assign option value
  | _ => .error (.error (.unexpectedValue value option))

/-- Takes the rest of an argument that starts with two hyphens. -/
def takeLong (s : Scanner) (body : Text) : Except Halt Scanner :=
  let name := body.takeWhile (· ≠ '=')
  match CommandOption.ofName? name, body.drop name.length with
  | none, _ => .error (.error (.unexpected ("--".toList ++ name)))
  | some option, [] => s.takeOption option
  | some option, _ :: value => s.takeOptionWith option value

/-- Takes the letters after a single hyphen. -/
def takeLetters (s : Scanner) : Text → Except Halt Scanner
  | [] => .ok s
  | letter :: letters =>
    match CommandOption.ofLetter? letter with
    | none => .error (.error (.unexpected ['-', letter]))
    | some option => do (← s.takeOption option).takeLetters letters

/-- Takes words. -/
def takeWords (s : Scanner) (words : List String) : Except Halt Scanner := do
  let s ← s.settle
  return { s with request.words := s.request.words ++ words }

/-- Takes an argument that is no option: the value that an option waits for,
or a word. -/
def takePlain (s : Scanner) (argument : String) : Except Halt Scanner :=
  match s.pending with
  | some (option, none) => .ok { s with pending := some (option, some argument.toList) }
  | _ => s.takeWords [argument]

/-- Takes an argument other than `--`. A hyphen alone is no option. -/
def step (s : Scanner) (argument : String) : Except Halt Scanner :=
  match argument.toList with
  | '-' :: '-' :: body => s.takeLong body
  | '-' :: letter :: letters => s.takeLetters (letter :: letters)
  | _ => s.takePlain argument

/-- Takes all arguments. -/
def takeAll (s : Scanner) : List String → Except Halt Scanner
  | [] => s.settle
  | argument :: arguments =>
    if argument = "--" then s.takeWords arguments
    else do (← s.step argument).takeAll arguments

end Scanner

/-- The request that the arguments make. Color cannot be asked for and
refused at once. -/
def readArguments (arguments : List String) : Except Halt Request := do
  let request := (← Scanner.takeAll {} arguments).request
  match request.flags.filter (· ≠ .verbose) with
  | first :: second :: _ => .error (.error (.conflict first second))
  | _ => .ok request

end TimePhrase
