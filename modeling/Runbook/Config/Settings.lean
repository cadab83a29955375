import Runbook.Run.Runner
import Runbook.Variables

/-!
# Settings

Defaults for runners, as a configuration gives them.

* `Config.apply` lays a configuration over a runner. What is absent leaves the runner as it is; the
  shell can only be switched on; variables come after those that the runner has.
* `Config.initial` is what a new configuration starts from.
-/

namespace Runbook

/-- A setting that is switched on or off, or is a label. -/
inductive Toggle where
  | switch (enabled : Bool)
  | label (label : String)
  deriving DecidableEq, Repr

namespace Toggle

/-- As a policy for physical lines. -/
def toEcho : Toggle → Echo
  | switch enabled => Echo.ofBool enabled
  | label text => .labelled text

/-- As a policy for failures. -/
def toOnFailure : Toggle → OnFailure
  | switch suppress => OnFailure.ofBool suppress
  | label text => .labelled text

end Toggle

/-- Defaults for runners. -/
structure Config where
  echo : Option Toggle := none
  onFailure : Option Toggle := none
  encoding : Option String := none
  shell : Bool := false
  cwd : Option String := none
  env : Variables := Variables.empty
  deriving DecidableEq

namespace Config

/-- What a new configuration starts from. -/
def initial : Config :=
  { echo := some (.switch true), onFailure := some (.switch false), encoding := some "utf8" }

/-- The encoding with a name, or the complaint that there is none. -/
def namedEncoding (name : String) : Except Error Encoding :=
  match Encoding.parse? name with
  | some encoding => .ok encoding
  | none => .error (.misuse (.unknownEncoding name))

/-- The encoding of a runner under this configuration. -/
def chosenEncoding (config : Config) (runner : Runner) : Except Error Encoding :=
  match config.encoding with
  | some name => namedEncoding name
  | none => .ok runner.encoding

/-- The options of a launch under this configuration. -/
def overOptions (config : Config) (options : Options) : Options :=
  { options with
    shell := options.shell || config.shell
    cwd := config.cwd.or options.cwd
    env := options.env ++ config.env.pairs }

/-- The runner under this configuration. -/
def apply (config : Config) (runner : Runner) : Except Error Runner := do
  let encoding ← config.chosenEncoding runner
  return { runner with
    echo := (config.echo.map Toggle.toEcho).getD runner.echo
    onFailure := (config.onFailure.map Toggle.toOnFailure).getD runner.onFailure
    encoding
    options := config.overOptions runner.options }

end Config

end Runbook
