import Runbook.Host.Utility.Basic
import Runbook.Host.Utility.Concatenation
import Runbook.Host.Utility.Copy
import Runbook.Host.Utility.Count
import Runbook.Host.Utility.Listing
import Runbook.Host.Utility.Printing
import Runbook.Host.Utility.Touch
import Runbook.Host.Utility.Translate

/-!
# The utilities of a machine

All programs that can be started, but for the shell, by their names.
-/

namespace Runbook.Host.Utility

/-- The utilities by their names. -/
def table : List (String × (Job → Act Nat)) := [
  ("true", fun _ => return 0),
  ("false", fun _ => return 1),
  ("echo", echo),
  ("printf", printf),
  ("cat", cat),
  ("sleep", sleep),
  ("ls", ls),
  ("pwd", pwd),
  ("touch", touch),
  ("cp", cp),
  ("printenv", printenv),
  ("wc", wc),
  ("tr", tr)]

/-- The utility with a name. -/
def find? (name : String) : Option (Job → Act Nat) :=
  (table.find? (·.1 == name)).map (·.2)

end Runbook.Host.Utility
