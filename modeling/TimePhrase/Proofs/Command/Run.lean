/-
# What the command leaves behind

The exit code and the standard error of the command tell what became of the
phrase, and nothing else. Three things could stand in the way, and none does:
a phrase alone causes no error of usage (`resolve_trichotomy`), a format that
was read shows every date-time (`Request.exists_render`), and the report goes to
the standard output. So the command ends with 0, 2 or 1 as the phrase has a
result, is not recognized or leads out of the supported years, whatever is
asked for beside the phrase and the reference (`execute_outcome`).

Key definitions: `Request.result`, `Request.told`, `Request.exitCode`,
`Request.complaint`, `Output.Tells`.
Key theorems: `Request.exists_render`, `Request.execute_eq`, `Request.execute_ok`,
`tells_execute`, `execute_outcome`.
-/
import TimePhrase.Command.Run
import TimePhrase.Proofs.Chain.Basic
import TimePhrase.Proofs.Command.Arguments

namespace TimePhrase

/-! ### Formats -/

theorem showable_usualFormat : Showable usualFormat := by
  have h : checkFormat usualFormat = .ok usualFormat := by cbv
  exact (checkFormat_eq_ok_iff.mp h).2

namespace Request

variable {arguments : List String} {request : Request}

/-- Every date-time is shown in the format of a request. -/
theorem exists_render (h : readArguments arguments = .ok request) (dt : DateTime) :
    ∃ text, dt.render? request.outputFormat = some text := by
  have hshow : Showable request.outputFormat := by
    rw [outputFormat]
    cases hformat : request.format with
    | none => exact showable_usualFormat
    | some format => exact showable_of_readArguments h hformat
  exact hshow.exists_render dt

/-! ### Outputs -/

/-- What the phrase of a request stands for. -/
def result (request : Request) (around : Surroundings) : Except ResolveError DateTime :=
  resolve (request.phrase around.input) (request.reference.getD around.now)

/-- What is told on the standard output: the report, or the value alone. -/
def told (request : Request) (around : Surroundings) : String :=
  let phrase := (request.phrase around.input).toList
  let reference := request.reference.getD around.now
  if request.isVerbose then
    report phrase (run phrase reference) reference request.outputFormat
      (request.wantsColor around.terminal) around.elapsed
  else match request.result around with
    | .ok value => value.shown request.outputFormat ++ "\n"
    | .error _ => ""

/-- The exit code for what became of the phrase. -/
def exitCode (request : Request) (around : Surroundings) : Nat :=
  match request.result around with
  | .ok _ => 0
  | .error e => e.exitCode

/-- What is said on the standard error about what became of the phrase. -/
def complaint (request : Request) (around : Surroundings) : String :=
  match request.result around with
  | .ok _ => ""
  | .error e => e.line (request.phrase around.input).toList

/-- The three outputs of the command. A value is always printed, as its format
shows every date-time. -/
theorem execute_eq (h : readArguments arguments = .ok request) (around : Surroundings) :
    execute arguments around =
      ⟨request.exitCode around, request.told around, request.complaint around⟩ := by
  have hresult : (run (request.phrase around.input).toList
      (request.reference.getD around.now)).result = request.result around := rfl
  simp only [execute, h, conclude, hresult, exitCode, told, complaint]
  cases request.result around with
  | error e => simp
  | ok value =>
    obtain ⟨text, htext⟩ := exists_render h value
    by_cases hverbose : request.isVerbose <;> simp [hverbose, htext, DateTime.shown]

/-- Without the report the command prints the value that the phrase stands for. -/
theorem execute_ok (h : readArguments arguments = .ok request) {around : Surroundings}
    {value : DateTime} (hvalue : request.result around = .ok value)
    (hverbose : request.isVerbose = false) :
    ∃ text, value.render? request.outputFormat = some text ∧
      execute arguments around = ⟨0, String.ofList text ++ "\n", ""⟩ := by
  obtain ⟨text, htext⟩ := exists_render h value
  refine ⟨text, htext, ?_⟩
  rw [execute_eq h]
  simp [exitCode, told, complaint, hvalue, hverbose, DateTime.shown, htext]

end Request

/-- The exit code is 0, 2 or 1, as a phrase has a result, is not recognized or
leads out of the supported years. -/
structure Output.Tells (output : Output) (result : Except ResolveError DateTime) : Prop where
  code_le : output.code ≤ 2
  code_eq_zero_iff : output.code = 0 ↔ ∃ value, result = .ok value
  code_eq_two_iff : output.code = 2 ↔ result = .error .notRecognized
  code_eq_one_iff : output.code = 1 ↔ result = .error .outOfRange

theorem tells_execute {arguments : List String} {request : Request}
    (h : readArguments arguments = .ok request) (around : Surroundings) :
    (execute arguments around).Tells (request.result around) := by
  rw [Request.execute_eq h]
  unfold Request.exitCode
  rcases resolve_trichotomy (request.phrase around.input) (request.reference.getD around.now) with
    ⟨value, hresult⟩ | hresult | hresult <;> rw [Request.result, hresult] <;>
    constructor <;> simp [ResolveError.exitCode]

/-- A terminal at the epoch, with nothing piped in. -/
def Surroundings.epoch : Surroundings where
  input := none
  now := .epoch
  terminal := true
  elapsed := 0

example : execute ["tomorrow"] .epoch = ⟨0, "1970-01-02 00:00:00.000\n", ""⟩ := by cbv

end TimePhrase
