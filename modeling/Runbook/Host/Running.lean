import Runbook.Host.Launch
import Runbook.Run.Runner

/-!
# Running blocks at a site

The four primitives with no settings, each as a function of a block.
-/

namespace Runbook.Host.Site

/-- What comes of the run of a block at a site, as far as the runner comes back from its launches. -/
abbrev Outcome := Transcript Event (Except Departure (Except Error (List Completion))) Site

/-- Runs a block with a primitive and no settings. -/
def runWith (primitive : Primitive) (block : Block) (site : Site) : Outcome :=
  (({ primitive } : Runner).dialogue block).venture launch site

/-- Runs each line and reports its exit status. -/
def call : Block → Site → Outcome := runWith .call

/-- Runs each line up to the first whose exit status is not zero. -/
def checkCall : Block → Site → Outcome := runWith .checkCall

/-- Runs each line and reports what it prints. -/
def checkOutput : Block → Site → Outcome := runWith .checkOutput

/-- Runs each line and reports a record of its process. -/
def run : Block → Site → Outcome := runWith .run

end Runbook.Host.Site
