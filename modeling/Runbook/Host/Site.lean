import Runbook.Config.Lookup
import Runbook.Host.Schedule
import Runbook.Host.Shell.Start
import Runbook.Launch.Launcher

/-!
# Sites

A `Site` is where a runner works: a machine on which the runner is a process among others, and the
variables of the runner.

* `Site.standard` is a site with nothing of its own; `Site.withFile`, `Site.withDirectory` and
  `Site.withInput` put something into it.
* `Site.view`, `Site.readInput` and `Site.writeText` are what the runner itself does with files.
* `Site.spill` tells what reached the streams of the runner.
-/

namespace Runbook.Host

/-- Where a runner works. -/
structure Site where
  world : World
  environment : Variables
  /-- How much of the standard output and of the standard error was told before. -/
  told : Nat × Nat

namespace Site

/-! ## The machine -/

/-- The number of the process that the runner is. -/
def runner : Nat := 100

/-- The directories of every machine. -/
def directories : List Location :=
  [["dev"], ["dev", "fd"], ["etc"], ["home"], ["proc"], ["proc", "self"], ["proc", "self", "fd"],
    ["root"], ["usr"], ["usr", "bin"], ["usr", "local"], ["usr", "local", "bin"],
    ["usr", "local", "sbin"], ["usr", "sbin"], ["var"]]

/-- The links of every machine. -/
def links : List (Location × String) := [(["bin"], "usr/bin"), (["sbin"], "usr/sbin")]

/-- The number of streams of a process that have names. -/
def streamCount : Nat := 10

/-- The devices of every machine. Those that stand for the streams of a process are not used as they
are. -/
def devices : List (Location × Content) :=
  [(["dev", "full"], .full), (["dev", "null"], .void), (["dev", "stdin"], .void),
    (["dev", "stdout"], .void), (["dev", "stderr"], .void)] ++
  (List.range streamCount).flatMap fun n =>
    [(["dev", "fd", toString n], .void), (["proc", "self", "fd", toString n], .void)]

/-- The programs of every machine. -/
def programs : List String := "sh" :: Utility.table.map (·.1)

/-- The files of every machine. -/
def standardFiles : Files :=
  let nodes : List (Location × Node) :=
    directories.map (·, .directory) ++ [(["tmp"], ⟨.directory, 0o1777, 0⟩)] ++
    links.map (fun link => (link.1, ⟨.link link.2, 0o777, 0⟩)) ++
    devices.map (fun device => (device.1, ⟨device.2, 0o666, 0⟩)) ++
    programs.map fun name => (["usr", "bin", name], ⟨.program name, 0o755, 0⟩)
  nodes.foldl (fun files entry => files.put entry.1 entry.2 0) .empty

/-- The variables of every machine. -/
def standardEnvironment : Variables := Variables.ofPairs
  [("HOME", "/root"), ("LANG", "C.UTF-8"), ("PATH", Shell.Lookup.defaultPath)]

/-- What others may not do with new files. -/
def standardMask : Nat := 0o022

/-- A runner in a directory, whose streams are files without names: an empty one to read, and two to
write. -/
def machineAt (directory : Location) : Machine :=
  let files := standardFiles.prepare (directory ++ [""]) Machine.startTime
  let first := files.nodes.size
  let stream (reads : Bool) (n : Nat) : Opened := ⟨.node (first + n), 0, reads, !reads, false⟩
  { files := files.add (Array.replicate 3 (Node.file ""))
    pipes := #[]
    opened := #[stream true 0, stream false 1, stream false 2]
    processes := [{
      number := runner
      parent := 1
      descriptors := [(0, 0), (1, 1), (2, 2)]
      held := []
      directory
      mask := standardMask
      ignored := []
      expected := []
      pending := []
      time := 0
      ending := none
      bounds := [] }]
    clock := 0
    next := runner + 1 }

/-- A site with nothing of its own, seen from a directory. -/
def standard (directory : Location) : Site where
  world := ⟨machineAt directory, []⟩
  environment := standardEnvironment
  told := (0, 0)

/-- The machine of a site. -/
def machine (site : Site) : Machine := site.world.machine

/-- The site with another machine. -/
def withMachine (site : Site) (machine : Machine) : Site :=
  { site with world := { site.world with machine } }

/-- The files. -/
def files (site : Site) : Files := site.machine.files

/-- The site with other files. -/
def withFiles (site : Site) (files : Files) : Site := site.withMachine { site.machine with files }

/-- The directory of the runner. -/
def directory (site : Site) : Location := site.machine.directory runner

/-- The directory of the runner as a path. -/
def path (site : Site) : String := textOf site.directory.toPath

/-! ## What is put into a site -/

/-- The location that a path means if no name on it is one of a link. -/
def locationOf (site : Site) (path : String) : Location :=
  Files.pathStart site.directory (octets path) ++ Files.pathNames (octets path)

/-- Puts something at a path. -/
def withContent (site : Site) (path : String) (content : Content) (mode : Nat) : Site :=
  let location := site.locationOf path
  let now := site.machine.now
  site.withFiles ((site.files.prepare location now).put location ⟨content, mode, now⟩ now)

/-- Puts a file at a path. -/
def withFile (site : Site) (path : String) (bytes : Bytes) : Site :=
  site.withContent path (.file (Octets.ofBytes bytes)) 0o644

/-- Puts a directory at a path. -/
def withDirectory (site : Site) (path : String) : Site := site.withContent path .directory 0o755

/-- The number of the node that a stream of the runner leads to. -/
def streamNode? (site : Site) (stream : Nat) : Option Nat := do
  let (_, opened) ← site.machine.opened? runner stream
  match opened.target with
  | .node number => some number
  | .pipe _ => none

/-- The octets of the node that a stream of the runner leads to. -/
def streamOctets (site : Site) (stream : Nat) : String :=
  ((site.streamNode? stream).map fun number => (site.files.node number).octets).getD ""

/-- What the runner can read from its standard input. -/
def withInput (site : Site) (bytes : Bytes) : Site :=
  match site.streamNode? 0 with
  | some number =>
    site.withFiles (site.files.modify number fun node =>
      { node with content := .file (Octets.ofBytes bytes) })
  | none => site

/-! ## Files of the runner -/

/-- An action on a path; a name cannot hold the character zero. -/
def onPath {α : Type} (path : String) (action : String → Except Refusal α) : Except IoError α :=
  if path.toList.contains '\x00' then .error .zeroInName
  else (action (octets path)).mapError Refusal.toIoError

/-- The octets of the file at a path. -/
def contents (site : Site) (path : String) : Except Refusal String := do
  let (location, _) ← site.files.find site.directory path true
  match Machine.ownStream? location with
  | some stream => return site.streamOctets stream
  | none => site.files.contents site.directory path

/-- The files as the runner sees them. -/
def view (site : Site) : FileView where
  has path := (onPath path fun path => site.files.status site.directory path).isOk
  read path := (onPath path site.contents).map Octets.bytes

/-- Writes a file. -/
def writeText (site : Site) (path text : String) : Except IoError Site := do
  let mode := site.machine.newMode runner 0o666
  let files ← onPath path fun path =>
    site.files.write site.directory path (octets text) mode site.machine.now
  return site.withFiles files

/-- Reads the rest of the standard input. -/
def readInput (site : Site) : Bytes × Site :=
  let (read, machine) := site.machine.take runner 0
  (Octets.bytes (read.toOption.getD ""), site.withMachine machine)

/-- The entries below the directory of the runner that are new or changed since another site: their paths
from there, and what they hold. -/
def newContents (site before : Site) : List (String × Content) :=
  site.files.names.filterMap fun (location, number) =>
    let content := (site.files.node number).content
    let old : Option Content := (before.files.node? location).map (·.content)
    if site.directory.isPrefixOf location && old != some content then
      some (textOf ("/".intercalate (location.drop site.directory.length)), content)
    else none

/-- The files that are new or changed since another site. -/
def newFiles (site before : Site) : List (String × Bytes) :=
  (site.newContents before).filterMap fun (path, content) =>
    match content with
    | .file octets => some (path, Octets.bytes octets)
    | _ => none

/-- The directories that are new since another site. -/
def newDirectories (site before : Site) : List String :=
  ((site.newContents before).filter (·.2 == .directory)).map (·.1)

/-- What reached the streams of the runner and was not told yet. -/
def spill (site : Site) : Streams × Site :=
  let out := site.streamOctets 1
  let err := site.streamOctets 2
  let rest (octets : String) (told : Nat) : Bytes := Octets.bytes (String.ofList (octets.toList.drop told))
  (⟨rest out site.told.1, rest err site.told.2⟩, { site with told := (out.length, err.length) })

end Site

end Runbook.Host
