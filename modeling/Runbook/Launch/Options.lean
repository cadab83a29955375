import Runbook.Number.Duration
import Runbook.Text.Quoted

/-!
# Options of a launch

What every launch of a block has in common, and which standard streams a launch captures.
-/

namespace Runbook

open Number (Duration)

/-- The standard streams that a launch captures. -/
structure Capture where
  stdout : Bool
  stderr : Bool
  deriving DecidableEq, Repr

namespace Capture

/-- No stream. -/
def nothing : Capture := ⟨false, false⟩

/-- Standard output alone. -/
def output : Capture := ⟨true, false⟩

/-- Both streams. -/
def everything : Capture := ⟨true, true⟩

end Capture

/-- The options of a launch. -/
structure Options where
  /-- A shell reads each line. -/
  shell : Bool := false
  /-- The working directory of the children. -/
  cwd : Option String := none
  /-- Variables of the children; the last pair for a name counts. -/
  env : List (String × String) := []
  /-- The children inherit no variables. -/
  envClear : Bool := false
  /-- The program to start in place of the first word, or of the shell. -/
  executable : Option String := none
  /-- What the children read from standard input. -/
  stdin : Option String := none
  /-- Capture standard output and standard error. -/
  captureOutput : Bool := false
  /-- Fail unless the exit status is zero. -/
  check : Bool := false
  /-- How long a child may run. -/
  timeout : Option Duration := none
  deriving DecidableEq, Repr

/-- An optional item of a description. -/
def describeOption (item : Option String) : String :=
  match item with
  | some text => "Some(" ++ text ++ ")"
  | none => "None"

/-- A switch of a description. -/
def describeBool (b : Bool) : String := if b then "true" else "false"

/-- The options with their values. -/
def Options.describe (options : Options) : String :=
  "ProcessOptions \x7b shell: " ++ describeBool options.shell ++
    ", cwd: " ++ describeOption (options.cwd.map Text.quoted) ++
    ", env: " ++ Text.quotedPairs options.env ++
    ", env_clear: " ++ describeBool options.envClear ++
    ", executable: " ++ describeOption (options.executable.map Text.quoted) ++
    ", stdin: " ++ describeOption (options.stdin.map Text.quoted) ++
    ", capture_output: " ++ describeBool options.captureOutput ++
    ", check: " ++ describeBool options.check ++
    ", timeout: " ++ describeOption (options.timeout.map Duration.toText) ++ " \x7d"

end Runbook
