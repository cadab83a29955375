import Runbook.Config.Document
import Runbook.Host.Launch

/-!
# Saving configurations

Writes a configuration to a file in the form in which it is read again.
-/

namespace Runbook.Config

/-- Writes a configuration to a file. -/
def save (config : Config) (site : Host.Site) (path : String) : Except Error Host.Site :=
  (site.writeText path config.toText).mapError .io

end Runbook.Config
