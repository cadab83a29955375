import Runbook.CommandLine.Perform

/-!
# The program

Carries out a command line at a site that is made from the current directory: the files in it, and
those of configurations above it, are read before, and files that are new or changed are written
afterwards. All that is here are effects; what is done is decided elsewhere.
-/

namespace Runbook.Program

open CommandLine (Command Fault Usage)
open Host

/-- How deep below the current directory files are read. -/
def depthLimit : Nat := 4

/-- Reads what entries of a directory lead to, down to a depth. -/
def readFiles : Nat → List IO.FS.DirEntry → Site → IO Site
  | 0, _, site => return site
  | depth + 1, entries, site => do
    let mut site := site
    for entry in entries do
      let path := entry.path.toString
      if ← entry.path.isDir then
        let inside ← entry.path.readDir
        site ← readFiles depth inside.toList (site.withDirectory path)
      else
        let contents ← IO.FS.readBinFile entry.path
        site := site.withFile path contents.toList
    return site

/-- Reads a stream to its end. -/
partial def readStream (stream : IO.FS.Stream) (start : ByteArray) : IO ByteArray := do
  let bytes ← stream.read 65536
  if bytes.isEmpty then return start else readStream stream (start ++ bytes)

/-- Reads the configurations above a directory. -/
def readConfigurations (path : String) (site : Site) : IO Site := do
  let mut site := site
  for candidate in Config.candidates path do
    try
      let contents ← IO.FS.readBinFile candidate
      site := site.withFile candidate contents.toList
    catch _ => pure ()
  return site

/-- Writes the files that are new or changed. -/
def writeFiles (before after : Site) : IO Unit := do
  for path in after.newDirectories before do
    IO.FS.createDirAll path
  for (path, contents) in after.newFiles before do
    IO.FS.writeBinFile path ⟨contents.toArray⟩

/-- Writes bytes to a stream. -/
def put (stream : IO.FS.Stream) (bytes : Bytes) : IO Unit := do
  stream.write ⟨bytes.toArray⟩
  stream.flush

/-- What is said of a command line that is not carried out. -/
def usageText : String :=
  "Usage: runs <call|check-call|check-output|run|split|init> [OPTIONS] [FILE]\n"

/-- Tells why a command line is not carried out, and gives the exit status. -/
def refuse (usage : Usage) : IO UInt32 := do
  match usage with
  | .help =>
    IO.print usageText
    return 0
  | .version =>
    IO.println "runs"
    return 0
  | _ =>
    IO.eprint usageText
    return 2

/-- Tells why a command failed. -/
def complain (fault : Fault) : IO UInt32 := do
  IO.eprintln ("Error: " ++ "\n  caused by: ".intercalate fault.chain)
  return 1

/-- Tells why the runner did not come back from a launch, and gives the exit status. -/
def giveUp (reason : Departure.Reason) : IO UInt32 := do
  match reason with
  | .brokeOff => IO.eprintln "overflow when adding duration to instant"
  | .waits => IO.eprintln "the process does not come to an end"
  | .unfinished => IO.eprintln "the process takes too many steps"
  return 101

/-- Carries out a command. -/
def carryOut (command : Command) : IO UInt32 := do
  let current ← IO.currentDir
  let stdin ← readStream (← IO.getStdin) .empty
  let site := (Site.standard (Files.pathNames (octets current.toString))).withInput stdin.toList
  let site ← readFiles depthLimit (← current.readDir).toList site
  let site ← readConfigurations current.toString site
  let performed := CommandLine.perform site command
  put (← IO.getStdout) performed.streams.out
  put (← IO.getStderr) performed.streams.err
  writeFiles site performed.site
  match performed.result with
  | .ok (.ok status) => return UInt32.ofNat (status % 256).toNat
  | .ok (.error fault) => complain fault
  | .error departure => giveUp departure.reason

end Runbook.Program

/-- Carries out the command line. -/
def main (words : List String) : IO UInt32 :=
  match Runbook.CommandLine.Command.parse words with
  | .ok command => Runbook.Program.carryOut command
  | .error usage => Runbook.Program.refuse usage
