/-!
# Primitives

The four ways to launch a line. They differ in what they capture, in what counts as a failure and in
what they report.
-/

namespace Runbook

/-- A way to launch a line. -/
inductive Primitive where
  /-- Reports the exit status, whatever it is. -/
  | call
  /-- Fails unless the exit status is zero. -/
  | checkCall
  /-- Fails unless the exit status is zero; reports the captured standard output. -/
  | checkOutput
  /-- Reports a record of the process. -/
  | run
  deriving DecidableEq, Repr

namespace Primitive

/-- The name of a primitive. -/
def name : Primitive → String
  | call => "call"
  | checkCall => "check_call"
  | checkOutput => "check_output"
  | run => "run"

/-- The name of a primitive in the description of a runner. -/
def describe : Primitive → String
  | call => "Call"
  | checkCall => "CheckCall"
  | checkOutput => "CheckOutput"
  | run => "Run"

/-- All primitives. -/
def all : List Primitive := [call, checkCall, checkOutput, run]

/-- The primitive with exactly this name. -/
def ofName? (name : String) : Option Primitive := all.find? (·.name == name)

/-- The primitive with this name, in which hyphens may stand for low lines. -/
def parse? (name : String) : Option Primitive :=
  ofName? (String.ofList (name.toList.map fun c => if c = '-' then '_' else c))

end Primitive

end Runbook
