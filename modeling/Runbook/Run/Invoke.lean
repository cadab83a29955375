import Runbook.Error
import Runbook.Run.Completion

/-!
# One launch

`Primitive.judge` decides what a launch comes to, in this order: an error of the launcher, an exit
status that counts as a failure, captured bytes that are no text, a completion.
-/

namespace Runbook

namespace Primitive

/-- What a launch captures. -/
def capture (primitive : Primitive) (options : Options) : Capture :=
  match primitive with
  | call | checkCall => .nothing
  | checkOutput => .output
  | run => if options.captureOutput then .everything else .nothing

/-- An exit status other than zero is a failure. -/
def checksStatus (primitive : Primitive) (options : Options) : Bool :=
  match primitive with
  | call => false
  | checkCall | checkOutput => true
  | run => options.check

/-- The launch that the primitive asks for. -/
def request (primitive : Primitive) (options : Options) (invocation : Invocation) : Request :=
  ⟨invocation, options, primitive.capture options⟩

/-- The failure that an error of the launcher is. Time is up only where there is a limit. -/
def launchFailure (options : Options) (invocation : Invocation) (error : IoError) : Failure :=
  match options.timeout with
  | some limit =>
    if error.kind = .timedOut then .timeout invocation.program limit
    else .launch invocation.program error
  | none => .launch invocation.program error

/-- Reads a captured stream, if there is one. -/
def decodeStream (encoding : Encoding) (stream : Option Bytes) :
    Except Utf8.Flaw (Option Captured) :=
  match stream with
  | some bytes => some <$> encoding.decode bytes
  | none => .ok none

/-- What is reported of a process whose exit status is no failure. -/
def report (primitive : Primitive) (invocation : Invocation) (encoding : Encoding)
    (output : Output) : Except Utf8.Flaw Completion :=
  match primitive with
  | call | checkCall => .ok (.status output.code)
  | checkOutput => Completion.output <$> encoding.decode (output.stdout.getD [])
  | run => do
    let stdout ← decodeStream encoding output.stdout
    let stderr ← decodeStream encoding output.stderr
    return .completed ⟨invocation, output.code, stdout, stderr⟩

/-- What a launch comes to. -/
def judge (primitive : Primitive) (options : Options) (encoding : Encoding)
    (invocation : Invocation) : Except IoError Output → Except Failure Completion
  | .error error => .error (launchFailure options invocation error)
  | .ok output =>
    if output.code ≠ 0 ∧ primitive.checksStatus options then
      .error (.exit output.code (output.stderr.map textLossy))
    else (primitive.report invocation encoding output).mapError .decode

/-- Launches once and decides what the launch comes to. -/
def invoke {σ : Type} (primitive : Primitive) (launcher : Launcher σ) (invocation : Invocation)
    (options : Options) (encoding : Encoding) (state : σ) :
    Except Failure Completion × Launched × σ :=
  let (launched, state) := launcher (primitive.request options invocation) state
  (primitive.judge options encoding invocation launched.outcome, launched, state)

end Primitive

end Runbook
