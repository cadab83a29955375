import Runbook.CommandLine.Execute
import Runbook.CommandLine.Split
import Runbook.Config.Saving
import Runbook.Host.Launch

/-!
# Carrying out commands

What a command does at a site. A block is read before anything else is looked at, so that a bad block
is told of before a bad configuration. If the runner does not come back from a launch, that is all that
is done.
-/

namespace Runbook.CommandLine

open Host (Departure Site)

/-! ## Blocks -/

/-- Where a block comes from, as messages name it. -/
def sourceName (file : Option String) : String :=
  match file with
  | some path => if path = "-" then "<stdin>" else path
  | none => "<stdin>"

/-- The block, and the site after it is read. -/
def readBlock (site : Site) (file : Option String) : Except Fault String × Site :=
  match file.filter (· != "-") with
  | some path =>
    ((site.view.readText path).mapError fun error =>
      .during ("Failed to read " ++ path) (.io error), site)
  | none =>
    let (bytes, site) := site.readInput
    let result := match text? bytes with
      | .ok text => .ok text
      | .error _ => .error (.during "Failed to read command block from stdin" (.io .notText))
    (result, site)

/-! ## Commands -/

/-- What a command comes to at a site, unless the runner does not come back from a launch. -/
structure Performed where
  result : Except Departure (Except Fault Int)
  streams : Streams
  site : Site

/-- A command that launches nothing, or nothing more. -/
def Performed.ofFinished (finished : Finished Site) : Performed :=
  ⟨.ok finished.result, finished.streams, finished.state⟩

/-- A command that launches, with what was written before the runner did not come back. -/
def Performed.ofTranscript (transcript : Transcript Streams (Except Departure (Except Fault Int)) Site) :
    Performed :=
  let last : Streams :=
    match transcript.result with
    | .ok _ => .silent
    | .error departure => departure.spilled
  ⟨transcript.result, .join transcript.told ++ last, transcript.state⟩

/-- Runs a block. -/
def performExecute (site : Site) (primitive : Primitive) (settings : Settings) : Performed :=
  let (block, site) := readBlock site settings.file
  match block with
  | .error fault => .ofFinished ⟨.error fault, .silent, site⟩
  | .ok block =>
    match setup ⟨site.view, site.path⟩ primitive settings with
    | .error fault => .ofFinished ⟨.error fault, .silent, site⟩
    | .ok runner =>
      .ofTranscript <|
        (dialogue runner settings (sourceName settings.file) (.text block)).venture Site.launch site

/-- Shows how a block is split. -/
def performSplit (site : Site) (file : Option String) (json : Bool) : Finished Site :=
  let (block, site) := readBlock site file
  match block with
  | .error fault => ⟨.error fault, .silent, site⟩
  | .ok block =>
    let (result, streams) := splitBlock json (sourceName file) (.text block)
    ⟨result, streams, site⟩

/-- Writes a first configuration, unless there is one already that is to be kept. -/
def performInit (site : Site) (cwd : Option String) (force : Bool) : Finished Site :=
  let path := Config.inDirectory (cwd.getD site.path).toList (Config.fileNames.head?.getD "")
  if site.view.has path ∧ ¬ force then
    ⟨.ok 0, .printed ("❌ Config already exists at: " ++ path ++ "\n   Use --force to overwrite\n"), site⟩
  else
    match Config.initial.save site path with
    | .error error => ⟨.error (.during ("Failed to write config to " ++ path) (.error error)), .silent, site⟩
    | .ok site => ⟨.ok 0, .printed ("✅ Created config: " ++ path ++ "\n"), site⟩

/-- Carries out a command. -/
def perform (site : Site) : Command → Performed
  | .execute primitive settings => performExecute site primitive settings
  | .split file json => .ofFinished (performSplit site file json)
  | .init cwd force => .ofFinished (performInit site cwd force)

end Runbook.CommandLine
