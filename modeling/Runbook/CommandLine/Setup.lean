import Runbook.CommandLine.Command
import Runbook.Config.Lookup

/-!
# The runner of a command line

`setup` starts from the plain runner of a primitive, lays the configuration over it unless that is
switched off, and then what the command line gives. What the command line gives comes last, so it counts.
-/

namespace Runbook.CommandLine

open Number (Binary64 Duration)

/-- What lies beneath the failure of a command. -/
inductive Cause where
  | error (error : Error)
  | io (error : IoError)
  | duration (fault : Duration.Fault)
  deriving DecidableEq, Repr

/-- The texts of a cause and of what lies beneath it. -/
def Cause.chain : Cause → List String
  | error e => e.chain
  | io e => [e.message]
  | duration fault => [fault.message]

/-- The failure of a command: what was attempted, if that is told, and why it failed. -/
structure Fault where
  attempt : Option String
  cause : Cause
  deriving DecidableEq, Repr

namespace Fault

/-- A failure without a word on what was attempted. -/
def bare (error : Error) : Fault := ⟨none, .error error⟩

/-- A failure of an attempt. -/
def during (attempt : String) (cause : Cause) : Fault := ⟨some attempt, cause⟩

/-- The texts of a failure, the attempt first. -/
def chain (fault : Fault) : List String := fault.attempt.toList ++ fault.cause.chain

end Fault

/-- Where a command looks for a configuration. -/
structure Surroundings where
  files : FileView
  /-- The current directory. -/
  directory : String

/-- The plain runner of a primitive under the configuration. -/
def configured (surroundings : Surroundings) (primitive : Primitive) (settings : Settings) :
    Except Error Runner :=
  let runner : Runner := { primitive }
  if settings.noConfig then .ok runner
  else do (← Config.discover surroundings.files surroundings.directory).apply runner

namespace Settings

/-- The policy for physical lines. -/
def echoOver (settings : Settings) (echo : Echo) : Echo :=
  (settings.echo.map Echo.labelled).getD echo

/-- The policy for failures. -/
def onFailureOver (settings : Settings) (policy : OnFailure) : OnFailure :=
  if settings.keepGoing then .ignore else (settings.onFailure.map OnFailure.labelled).getD policy

/-- The encoding. -/
def encodingOver (settings : Settings) (encoding : Encoding) : Except Error Encoding :=
  match settings.encoding with
  | some name => Config.namedEncoding name
  | none => .ok encoding

/-- How long each child may run. -/
def timeoutOver (settings : Settings) (timeout : Option Duration) :
    Except Fault (Option Duration) :=
  match settings.timeout with
  | none => .ok timeout
  | some seconds =>
    match Duration.ofSeconds seconds with
    | .ok duration => .ok (some duration)
    | .error fault => .error (.during ("Invalid timeout: " ++ seconds.toText) (.duration fault))

/-- The options of a launch. -/
def optionsOver (settings : Settings) (options : Options) : Except Fault Options := do
  let timeout ← settings.timeoutOver options.timeout
  return { options with
    shell := options.shell || settings.shell
    cwd := settings.cwd.or options.cwd
    env := options.env ++ settings.env
    timeout
    captureOutput := options.captureOutput || settings.captureOutput
    check := options.check || settings.check }

/-- Lays what the command line gives over a runner. -/
def applyTo (settings : Settings) (runner : Runner) : Except Fault Runner := do
  let encoding ← (settings.encodingOver runner.encoding).mapError Fault.bare
  let options ← settings.optionsOver runner.options
  return { runner with
    echo := settings.echoOver runner.echo
    onFailure := settings.onFailureOver runner.onFailure
    encoding
    options }

end Settings

/-- The runner that a command line asks for. -/
def setup (surroundings : Surroundings) (primitive : Primitive) (settings : Settings) :
    Except Fault Runner := do
  settings.applyTo (← (configured surroundings primitive settings).mapError Fault.bare)

end Runbook.CommandLine
