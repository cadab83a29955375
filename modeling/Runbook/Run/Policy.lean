import Runbook.Text.Quoted

/-!
# Policies

* `Echo` says what happens to each physical line as it is read.
* `OnFailure` says what happens to a launch that fails: it ends the run, or it is passed over and made
  known in some way.

With `callback` whoever runs the block is told, and nothing is printed.
-/

namespace Runbook

/-- What happens to a physical line. -/
inductive Echo where
  | disabled
  /-- It is printed after the usual marker. -/
  | marker
  /-- It is printed after a text. -/
  | labelled (label : String)
  | callback
  deriving DecidableEq, Repr

/-- The usual marker. -/
def echoMarker : String := "$"

/-- A line printed after a label. -/
def labelLine (label line : String) : String := label ++ " " ++ line ++ "\n"

namespace Echo

/-- Switched on or off. -/
def ofBool (enabled : Bool) : Echo := if enabled then marker else disabled

/-- Lines are looked at. -/
def isEnabled (echo : Echo) : Bool := echo != disabled

/-- What is printed for a line. -/
def print (echo : Echo) (line : String) : String :=
  match echo with
  | marker => labelLine echoMarker line
  | labelled label => labelLine label line
  | disabled | callback => ""

/-- The policy with its label. -/
def describe : Echo → String
  | disabled => "Disabled"
  | marker => "Marker"
  | labelled label => "Prefix(" ++ Text.quoted label ++ ")"
  | callback => "Callback(..)"

end Echo

/-- What happens to a launch that fails. -/
inductive OnFailure where
  /-- It ends the run. -/
  | propagate
  /-- It is passed over. -/
  | ignore
  /-- It is passed over, and its line is printed to standard error after a text. -/
  | labelled (label : String)
  | callback
  deriving DecidableEq, Repr

namespace OnFailure

/-- Whether failures are passed over. -/
def ofBool (suppress : Bool) : OnFailure := if suppress then ignore else propagate

/-- Failures are passed over. -/
def suppresses (policy : OnFailure) : Bool := policy != propagate

/-- What is printed to standard error for a line that failed. -/
def print (policy : OnFailure) (line : String) : String :=
  match policy with
  | labelled label => labelLine label line
  | propagate | ignore | callback => ""

/-- The policy with its label. -/
def describe : OnFailure → String
  | propagate => "Propagate"
  | ignore => "Ignore"
  | labelled label => "Prefix(" ++ Text.quoted label ++ ")"
  | callback => "Callback(..)"

end OnFailure

end Runbook
