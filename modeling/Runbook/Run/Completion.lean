import Runbook.Launch.Encoding
import Runbook.Launch.Invocation
import Runbook.Launch.Launcher

/-!
# Completions

What one line that did not fail reports. The report depends on the primitive: the exit status, the
captured standard output, or a record of the process.
-/

namespace Runbook

/-- The record of a process. -/
structure Process where
  invocation : Invocation
  code : Int
  stdout : Option Captured
  stderr : Option Captured
  deriving DecidableEq, Repr

/-- What a line reports. -/
inductive Completion where
  | status (code : Int)
  | output (stdout : Captured)
  | completed (process : Process)
  deriving DecidableEq, Repr

namespace Completion

/-- The exit status, if it is reported. -/
def code? : Completion → Option Int
  | status code => some code
  | output _ => none
  | completed process => some process.code

/-- The captured standard output, if there is any. -/
def stdout? : Completion → Option Captured
  | status _ => none
  | output stdout => some stdout
  | completed process => process.stdout

/-! ## As JSON -/

/-- A captured stream, or null. -/
def streamJson (stream : Option Captured) : Json :=
  match stream with
  | some captured => captured.toJson
  | none => .null

/-- The record with its members in a fixed order. -/
def processJson (process : Process) : Json :=
  .ofMembers [("args", process.invocation.toJson), ("returncode", .ofInt process.code),
    ("stdout", streamJson process.stdout), ("stderr", streamJson process.stderr)]

/-- The kind of the report and what is reported. -/
def toJson : Completion → Json
  | status code => .ofMembers [("kind", .ofText "status"), ("value", .ofInt code)]
  | output stdout => .ofMembers [("kind", .ofText "output"), ("value", stdout.toJson)]
  | completed process => .ofMembers [("kind", .ofText "completed"), ("value", processJson process)]

/-! ## As text -/

/-- A line about an exit status that is not zero. -/
def writeStatus (code : Int) : Streams :=
  if code = 0 then .silent else .warned ("exit status " ++ toString code ++ "\n")

/-- What was captured, each stream to its own, and a line about the exit status. -/
def write : Completion → Streams
  | status code => writeStatus code
  | output stdout => ⟨stdout.toBytes, []⟩
  | completed process =>
    ⟨(process.stdout.map Captured.toBytes).getD [], (process.stderr.map Captured.toBytes).getD []⟩ ++
      writeStatus process.code

end Completion

end Runbook
