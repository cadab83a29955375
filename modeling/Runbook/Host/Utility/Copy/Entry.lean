import Runbook.Host.Utility.Copy.Names

/-!
# Copying one entry

An `Entry` is a source and the path of its copy. `Copy.prepare` looks at what is there already and makes
room; it finds out that nothing is to be done, or that the copy cannot be made, or what it is to be made
from. Then `Copy.makeFile`, `Copy.makeLink` and the like make it.
-/

namespace Runbook.Host.Utility.Copy

/-! ## The state of a run -/

/-- What was done before. -/
structure Progress where
  /-- The operands so far, with their nodes. -/
  sources : List (String × Nat) := []
  /-- The copies of operands so far, with their nodes. -/
  targets : List (String × Nat) := []
  /-- Nodes with the paths of their copies. -/
  copies : List (Nat × String) := []
  /-- Why not everything could be printed. -/
  unprinted : Option Refusal := none

/-- An act in the course of a run. -/
abbrev Copying := StateT Progress Act

/-- What all entries of a run have in common. -/
structure Task where
  job : Job
  wish : Wish
  /-- There are several operands, so that a file may be met twice. -/
  isMultiple : Bool

namespace Task

variable (task : Task)

/-- A path in a message. -/
def name (path : String) : String := Quotation.always task.job.isWide path

/-- Tells that something cannot be done. -/
def refuse (text : String) : Copying Bool := do
  warn task.job text
  return false

/-- Tells why something cannot be done. -/
def refuseAs (text : String) (refusal : Refusal) : Copying Bool :=
  task.refuse (text ++ ": " ++ refusal.text)

/-- Tells what is done. -/
def announce (text : String) : Copying Unit := do
  if task.wish.verbose then
    match ← Act.tryWrite 1 (text ++ "\n") with
    | .ok () => return
    | .error refusal => modify fun progress => { progress with unprinted := some refusal }

/-- Tells that a source is copied. -/
def announceCopy (source target : String) (backup : Option String) : Copying Unit :=
  task.announce (task.name source ++ " -> " ++ task.name target ++
    (backup.map fun path => " (backup: " ++ task.name path ++ ")").getD "")

end Task

/-- The node under a path. -/
def nodeAt (path : String) (follows : Bool) : Act (Except Refusal (Nat × Node)) := do
  let files ← Act.files
  return (files.find (← Act.directory) path follows).map fun found => (found.2, files.node found.2)

/-- The location of a new name. -/
def newName (path : String) (mayEndInSlash : Bool) : Act (Except Refusal Location) := do
  let files ← Act.files
  match files.resolve (← Act.directory) path false with
  | .error refusal => return .error refusal
  | .ok location =>
    if (files.number? location).isSome then return .error .exists
    else if Files.pathEnd path != .name && !mayEndInSlash then return .error .noEntry
    else return .ok location

/-- Takes a name away. -/
def removeName (path : String) : Act (Except Refusal Unit) := do
  match (← Act.files).resolve (← Act.directory) path false with
  | .error refusal => return .error refusal
  | .ok location =>
    Act.changeFiles fun now files => files.erase location now
    return .ok ()

/-- Gives a node another name. -/
def rename (source target : String) : Act (Except Refusal Unit) := do
  let files ← Act.files
  let directory ← Act.directory
  match files.find directory source false, files.resolve directory target false with
  | .ok (old, number), .ok new =>
    Act.changeFiles fun now files => (files.erase old now).link new number now
    return .ok ()
  | .error refusal, _ | _, .error refusal => return .error refusal

/-- Changes the node under a path. -/
def changeNode (path : String) (follows : Bool) (change : Node → Node) : Act Unit := do
  match ← nodeAt path follows with
  | .ok (number, _) => Act.changeFiles fun _ files => files.modify number change
  | .error _ => return

/-! ## Entries -/

/-- A source and the path of its copy. -/
structure Entry where
  source : String
  target : String
  isOperand : Bool
  follow : Follow
  /-- Nothing can be at the path of the copy. -/
  isNew : Bool
  /-- Nothing was found at the path of the copy before. -/
  isMissing : Bool
  /-- The directories that the entry is in, as nodes. -/
  above : List Nat
  /-- The copy of one of these directories is new. -/
  hasNewAbove : Bool
  /-- The operands that led to the entry. -/
  top : String × String

/-- A source that is to be copied. -/
structure Found where
  number : Nat
  node : Node
  /-- There is nothing at the path of the copy. -/
  isNew : Bool
  backup : Option String

/-- A part of a copy that may come to an end at once, well or not. -/
abbrev Preparing := ExceptT Bool Copying

variable (task : Task) (entry : Entry)

/-- Somebody is asked whether a file may be overwritten. -/
def isAllowed : Copying Bool := do
  tell (task.job.name ++ ": overwrite " ++ task.name entry.target ++ "? ")
  Act.wait (fun number machine => machine.canReadLine number 0) none
  let answer ← Act.update fun number machine => machine.takeLine number 0
  let first := (answer.toOption.getD []).head?
  return first = some 'y' || first = some 'Y'

/-- The same file with the same path was met before. -/
def isSeen (seen : List (String × Nat)) (path : String) (number : Nat) : Bool :=
  task.isMultiple && entry.isOperand && seen.contains (path, number)

/-- The file at the path of the copy stands in for the backup of the source. -/
def isBackupOf (files : Files) (directory : Location) (source : Nat) : Bool :=
  let suffix := task.wish.suffix.getD "~"
  lastName entry.source = lastName entry.target ++ suffix &&
    ((files.find directory (entry.target ++ suffix) true).toOption.any fun found => found.2 = source)

/-- Puts a backup in place of a file, and gives its path. -/
def makeBackup (kind : Backup) : Preparing String := do
  let path := backupPath (← Act.files) (← Act.directory) task.wish kind entry.target
  match ← rename entry.target path with
  | .ok () => return path
  | .error refusal => throw (← task.refuseAs ("cannot backup " ++ task.name entry.target) refusal)

/-- Makes room where there is a file. -/
def makeRoom (number : Nat) (node : Node) (target : Nat) (old : Node) : Preparing Found := do
  let wish := task.wish
  let files ← Act.files
  let directory ← Act.directory
  let permission := if wish.overwrite = .never then Permission.yes
    else mayCopy files directory wish entry.follow entry.source entry.target number target
  if permission = .no then
    throw (← task.refuse (task.name entry.source ++ " and " ++ task.name entry.target ++
      " are the same file"))
  if !node.isDirectory then
    if wish.update && node.changed ≤ old.changed then throw true
    if wish.overwrite = .never then throw true
    if wish.overwrite = .asked then
      if !(← isAllowed task entry) then throw false
  if permission = .done then throw true
  if !old.isDirectory then
    if node.isDirectory then
      throw (← task.refuse ("cannot overwrite non-directory " ++ task.name entry.target ++
        " with directory " ++ task.name entry.source))
    let progress ← getThe Progress
    if wish.backup != some .numbered && isSeen task entry progress.targets entry.target target then
      throw (← task.refuse ("will not overwrite just-created " ++ task.name entry.target ++
        " with " ++ task.name entry.source))
  if old.isDirectory && !node.isDirectory then
    throw (← task.refuse ("cannot overwrite directory " ++ task.name entry.target ++
      " with non-directory"))
  let last := lastName entry.source
  let isDots := last = "." || last = ".."
  match wish.backup.filter fun _ => !isDots && !old.isDirectory with
  | some kind =>
    if kind != .numbered && isBackupOf task entry files directory number then
      throw (← task.refuse ("backing up " ++ task.name entry.target ++ " might destroy source;  " ++
        task.name entry.source ++ " not copied"))
    return ⟨number, node, true, some (← makeBackup task entry kind)⟩
  | none =>
    let hasOthers := wish.kept.links && 1 < files.nameCount target
    let isSpecial := entry.follow = .never && !node.isRegular
    if !old.isDirectory && (wish.removes || (!wish.attributesOnly && (hasOthers || isSpecial))) then
      match ← removeName entry.target with
      | .ok () => task.announce ("removed " ++ task.name entry.target)
      | .error refusal => throw (← task.refuseAs ("cannot remove " ++ task.name entry.target) refusal)
      return ⟨number, node, true, none⟩
    return ⟨number, node, false, none⟩

/-- Looks at the source and at what is at the path of the copy. -/
def prepare : Preparing Found := do
  let wish := task.wish
  match ← nodeAt entry.source (entry.follow != .never) with
  | .error refusal => throw (← task.refuseAs ("cannot stat " ++ task.name entry.source) refusal)
  | .ok (number, node) =>
    if node.isDirectory && !wish.recursive then
      throw (← task.refuse ("-r not specified; omitting directory " ++ task.name entry.source))
    if entry.isOperand then
      let progress ← getThe Progress
      if !node.isDirectory && wish.backup.isNone && isSeen task entry progress.sources entry.source number then
        warn task.job ("warning: source file " ++ task.name entry.source ++ " specified more than once")
        throw true
      modifyThe Progress fun progress =>
        { progress with sources := (entry.source, number) :: progress.sources }
    let staysLink := (!node.isRegular && (!wish.copiesAsFile || node.isDirectory || node.isLink)) ||
      wish.symbolicLinks || wish.hardLinks || wish.backup.isSome || wish.removes
    if entry.isNew || (entry.isMissing && !staysLink) then return ⟨number, node, true, none⟩
    let found ← match ← nodeAt entry.target (!staysLink) with
      | .ok (target, old) => makeRoom task entry number node target old
      | .error .noEntry => pure ⟨number, node, true, none⟩
      | .error refusal => throw (← task.refuseAs ("cannot stat " ++ task.name entry.target) refusal)
    let progress ← getThe Progress
    match ← nodeAt entry.target false with
    | .ok (target, old) =>
      if wish.backup.isNone && old.isLink && isSeen task entry progress.targets entry.target target then
        throw (← task.refuse ("will not copy " ++ task.name entry.source ++
          " through just-created symlink " ++ task.name entry.target))
    | .error _ => pure ()
    return found

/-! ## Making copies -/

/-- The mode of a new copy. -/
def newMode (node : Node) (isDirectory : Bool) : Act Nat := do
  let mode := if !task.wish.refusesMode then node.mode &&& 0o777
    else if isDirectory then 0o777 else 0o666
  Act.look fun number machine =>
    if task.wish.kept.mode then node.mode else machine.newMode number mode

/-- Gives a copy what it is to have in common with its source. -/
def keepFrom (node : Node) (path : String) (follows : Bool) : Copying Unit := do
  let kept := task.wish.kept
  changeNode path follows fun copy =>
    { copy with
      mode := if kept.mode then node.mode else copy.mode
      changed := if kept.time then node.changed else copy.changed }

/-- Opens the file that a copy is written into. -/
def openTarget (found : Found) : Copying Bool := do
  let cannot := "cannot create regular file " ++ task.name entry.target
  let opening : Machine.Opening := { writes := true, truncates := !task.wish.attributesOnly }
  let opened ← if found.isNew then pure (Except.error Refusal.noEntry)
    else Act.openAt Act.fileDescriptor entry.target opening
  match opened, found.isNew || task.wish.forces with
  | .ok (), _ => return true
  | .error refusal, false => task.refuseAs cannot refusal
  | .error _, true =>
    if !found.isNew then
      match ← removeName entry.target with
      | .ok () => task.announce ("removed " ++ task.name entry.target)
      | .error refusal => return ← task.refuseAs ("cannot remove " ++ task.name entry.target) refusal
    match ← nodeAt entry.target false with
    | .ok (_, old) =>
      if old.isLink then task.refuse ("not writing through dangling symlink " ++ task.name entry.target)
      else task.refuseAs cannot .exists
    | .error _ =>
      match ← Act.openAt Act.fileDescriptor entry.target { opening with creates := true } with
      | .ok () =>
        let mode ← newMode task found.node false
        changeNode entry.target true ({ · with mode })
        return true
      | .error .isDirectory => task.refuseAs cannot .notDirectory
      | .error refusal => task.refuseAs cannot refusal

/-- The number under which a source is opened. -/
def sourceDescriptor : Nat := Act.fileDescriptor + 1

/-- Copies a file. -/
def makeFile (found : Found) : Copying Bool := do
  match ← Act.openAt sourceDescriptor entry.source .reading with
  | .error refusal => task.refuseAs ("cannot open " ++ task.name entry.source ++ " for reading") refusal
  | .ok () =>
    if !(← openTarget task entry found) then return false
    if task.wish.clones && !task.wish.attributesOnly then
      if found.isNew then
        let _ ← removeName entry.target
      return ← task.refuse ("failed to clone " ++ task.name entry.target ++ " from " ++
        task.name entry.source ++ ": Operation not supported")
    let mut isWhole := true
    if !task.wish.attributesOnly then
      match ← Act.readAll sourceDescriptor with
      | .error refusal =>
        isWhole ← task.refuseAs ("error reading " ++ task.name entry.source) refusal
      | .ok octets =>
        match ← Act.tryWrite Act.fileDescriptor octets with
        | .ok () => pure ()
        | .error refusal =>
          isWhole ← task.refuseAs ("error writing " ++ task.name entry.target) refusal
      match found.node.content with
      | .program name => changeNode entry.target true fun copy =>
          if copy.isRegular then { copy with content := .program name } else copy
      | _ => pure ()
    if task.wish.explains then task.announce "copy offload: yes, reflink: unsupported, sparse detection: no"
    Act.close Act.fileDescriptor
    Act.close sourceDescriptor
    keepFrom task found.node entry.target true
    return isWhole

/-- Gives a name to a node. What the name is for gives way if `replaces` says so; the result tells
whether it did. -/
def giveName (path : String) (number : Nat) (replaces : Bool) : Act (Except Refusal Bool) := do
  match ← newName path false with
  | .ok location =>
    Act.changeFiles fun now files => files.link location number now
    return .ok false
  | .error .exists =>
    if !replaces then return .error .exists
    match ← removeName path, ← newName path false with
    | .ok (), .ok location =>
      Act.changeFiles fun now files => files.link location number now
      return .ok true
    | .error refusal, _ | _, .error refusal => return .error refusal
  | .error refusal => return .error refusal

/-- Makes another name for a file. -/
def makeName (source : String) (number : Nat) (replaces tells : Bool) : Copying Bool := do
  match ← giveName entry.target number replaces with
  | .ok isReplaced =>
    if isReplaced && tells then task.announce ("removed " ++ task.name entry.target)
    return true
  | .error refusal =>
    task.refuseAs ("cannot create hard link " ++ task.name entry.target ++ " to " ++ task.name source)
      refusal

/-- Makes a node of its own. -/
def makeNode (content : Content) (mode : Nat) : Act (Except Refusal Unit) := do
  match ← newName entry.target (content = .directory) with
  | .error refusal => return .error refusal
  | .ok location =>
    Act.changeFiles fun now files => files.put location ⟨content, mode, now⟩ now
    return .ok ()

/-- Makes a link; what is there gives way if that is asked for. -/
def makeLink (target : String) : Act (Except Refusal Unit) := do
  match ← makeNode entry (.link target) 0o777 with
  | .error .exists =>
    if !task.wish.forces then return .error .exists
    let _ ← removeName entry.target
    makeNode entry (.link target) 0o777
  | made => return made

/-- Makes a link that leads to the source. -/
def makeLinkToSource : Copying Bool := do
  let files ← Act.files
  let directory ← Act.directory
  let above := (files.find directory (directoryPart entry.target) true).toOption.map (·.1)
  let isHere := above.all (· == directory)
  if entry.source.toList.head? != some '/' && !isHere then
    task.refuse (Quotation.ifNeeded task.job.isWide entry.target ++
      ": can make relative symbolic links only in current directory")
  else
    match ← makeLink task entry entry.source with
    | .ok () => return true
    | .error refusal =>
      task.refuseAs ("cannot create symbolic link " ++ task.name entry.target ++ " to " ++
        task.name entry.source) refusal

/-- Copies a link. -/
def makeLinkLike (found : Found) (target : String) : Copying Bool := do
  match ← makeLink task entry target with
  | .ok () =>
    keepFrom task found.node entry.target false
    return true
  | .error refusal => task.refuseAs ("cannot create symbolic link " ++ task.name entry.target) refusal

/-- Copies a device. -/
def makeDevice (found : Found) : Copying Bool := do
  match ← makeNode entry found.node.content (← newMode task found.node false) with
  | .ok () => return true
  | .error refusal => task.refuseAs ("cannot create special file " ++ task.name entry.target) refusal

end Runbook.Host.Utility.Copy
