import Runbook.Host.Utility.Copy.Entry

/-!
# Copying files

Copies files, and directories with all that is in them. What cannot be copied is told of, and the rest is
copied all the same.
-/

namespace Runbook.Host.Utility

namespace Copy

variable (task : Task)

/-! ## Directories -/

/-- How an entry was copied. -/
structure Outcome where
  isFine : Bool
  /-- A directory would have been copied into itself. -/
  intoItself : Bool := false

/-- The names in a directory, in the order in which their nodes were made. -/
def namesIn (path : String) : Act (List String) := do
  let files ← Act.files
  let location := (files.resolve (← Act.directory) path true).toOption.getD []
  return ((files.entries location).mergeSort fun a b => a.2 ≤ b.2).map (·.1)

/-- Remembers where a node was copied to; what was remembered before stays. -/
def remember (number : Nat) (path : String) : Copying (Option String) := do
  match (← get).copies.find? (·.1 == number) with
  | some (_, earlier) => return some earlier
  | none =>
    modify fun progress => { progress with copies := (number, path) :: progress.copies }
    return none

/-- Where a node was copied to before, if its other names are to be names of the same copy. -/
def earlierCopy (entry : Entry) (found : Found) : Copying (Option String) := do
  let wish := task.wish
  let names := (← Act.files).nameCount found.number
  if wish.recursive && found.node.isDirectory then
    if entry.isOperand then remember found.number entry.target
    else return ((← get).copies.find? (·.1 == found.number)).map (·.2)
  else if wish.kept.links && !wish.hardLinks && !found.node.isDirectory &&
      (1 < names || (entry.isOperand && entry.follow = .operands) || entry.follow = .always) then
    remember found.number entry.target
  else return none

/-- A directory was met before. -/
def meetAgain (entry : Entry) (earlier : String) : Copying (Option Outcome) := do
  let files ← Act.files
  let directory ← Act.directory
  if isSameName files directory entry.source earlier then
    let isFine ← task.refuse ("cannot copy a directory, " ++ task.name entry.top.1 ++
      ", into itself, " ++ task.name entry.top.2)
    return some ⟨isFine, true⟩
  else if isSameName files directory entry.target earlier then
    warn task.job ("warning: source directory " ++ task.name entry.top.1 ++ " specified more than once")
    return some ⟨true, false⟩
  else if entry.follow = .always || (entry.isOperand && entry.follow = .operands) then return none
  else
    let isFine ← task.refuse ("will not create hard link " ++ task.name entry.target ++
      " to directory " ++ task.name earlier)
    return some ⟨isFine, false⟩

/-- Copies the entries of a directory one after the other, unless it would be copied into itself. -/
def eachName (copy : String → Copying Outcome) : List String → Copying Outcome
  | [] => return ⟨true, false⟩
  | name :: rest => do
    let first ← copy name
    if first.intoItself then return first
    let others ← eachName copy rest
    return ⟨first.isFine && others.isFine, others.intoItself⟩

/-- Makes the copy of a directory, if there is none yet. -/
def makeDirectory (entry : Entry) (found : Found) : Copying Bool := do
  if !found.isNew then return true
  match ← makeNode entry .directory (← newMode task found.node true) with
  | .error refusal => task.refuseAs ("cannot create directory " ++ task.name entry.target) refusal
  | .ok () =>
    match ← nodeAt entry.target true with
    | .ok (number, _) =>
      if !entry.hasNewAbove then
        let _ ← remember number entry.target
    | .error _ => pure ()
    task.announceCopy entry.source entry.target none
    return true

/-- Puts a file back in place of which a backup was put. -/
def putBack (entry : Entry) (backup : String) : Copying Unit := do
  match ← rename backup entry.target with
  | .error refusal =>
    let _ ← task.refuseAs ("cannot un-backup " ++ task.name entry.target) refusal
  | .ok () => task.announce (task.name backup ++ " -> " ++ task.name entry.target ++ " (unbackup)")

/-! ## Entries -/

/-- Makes the copy of something that is no directory. -/
def makeOther (entry : Entry) (found : Found) : Copying Bool := do
  let wish := task.wish
  let isKeptLink := found.node.isLink && entry.follow = .never
  if wish.symbolicLinks then makeLinkToSource task entry
  else if wish.hardLinks && !isKeptLink then
    makeName task entry entry.source found.number (wish.forces || wish.overwrite = .asked) false
  else
    match found.node.content with
    | .link target => makeLinkLike task entry found target
    | .file _ | .program _ => makeFile task entry found
    | _ => if wish.copiesAsFile then makeFile task entry found else makeDevice task entry found

/-- Copies an entry. The first argument bounds how deep directories are nested. -/
def copyEntry : Nat → Entry → Copying Outcome
  | 0, entry => do return ⟨← task.refuseAs ("cannot access " ++ task.name entry.source) .longName, false⟩
  | depth + 1, entry => do
    match ← (prepare task entry).run with
    | .error isFine => return ⟨isFine, false⟩
    | .ok found =>
      let isDirectory := found.node.isDirectory
      if !isDirectory then task.announceCopy entry.source entry.target found.backup
      let outcome ← match ← earlierCopy task entry found with
        | some earlier =>
          if isDirectory then meetAgain task entry earlier
          else
            match ← nodeAt earlier false with
            | .ok (number, _) =>
              pure (some ⟨← makeName task entry earlier number true true, false⟩)
            | .error _ => pure none
        | none => pure none
      let outcome ← match outcome with
        | some outcome => pure outcome
        | none =>
          if !isDirectory then pure ⟨← makeOther task entry found, false⟩
          else if entry.above.contains found.number then
            let isFine ← task.refuse ("cannot copy cyclic symbolic link " ++ task.name entry.source)
            pure ⟨isFine, false⟩
          else if !(← makeDirectory task entry found) then pure ⟨false, false⟩
          else
            let names ← namesIn entry.source
            let outcome ← eachName (fun name => copyEntry depth {
              source := inside entry.source name
              target := inside entry.target name
              isOperand := false
              follow := if entry.follow = .operands then .never else entry.follow
              isNew := found.isNew
              isMissing := false
              above := found.number :: entry.above
              hasNewAbove := entry.hasNewAbove || found.isNew
              top := entry.top }) names
            keepFrom task found.node entry.target true
            pure outcome
      if entry.isOperand then
        match ← nodeAt entry.target false with
        | .ok (number, _) => modify fun progress =>
            { progress with targets := (entry.target, number) :: progress.targets }
        | .error _ => pure ()
      match found.backup with
      | some backup => if !outcome.isFine then putBack task entry backup
      | none => pure ()
      return outcome

/-- A bound for how deep directories are nested. -/
def depthLimit : Nat := 5000

/-- Copies an operand. -/
def copyOperand (source target : String) (isNew isMissing : Bool) : Copying Bool := do
  let outcome ← copyEntry task depthLimit {
    source
    target
    isOperand := true
    follow := task.wish.followed
    isNew
    isMissing
    above := []
    hasNewAbove := false
    top := (source, target) }
  return outcome.isFine

/-! ## Directories that lead to a file -/

/-- The paths of the directories that lead to the last name of a path. -/
def leading (path : String) : List String :=
  let names := (cutAt '/' path.toList).map String.ofList
  ((List.range names.length).drop 1).map fun n => "/".intercalate (names.take n)

/-- Makes the directories that lead to a copy as they are in the path of the source. The results tell
whether all of them are there, and whether one is new. -/
def makeLeading (target : String) : List String → Bool → Copying (Bool × Bool)
  | [], isNew => return (true, isNew)
  | path :: rest, isNew => do
    let copy := inside target path
    if path.isEmpty then makeLeading target rest isNew
    else
      match ← nodeAt path true with
      | .error refusal =>
        return (← task.refuseAs ("failed to get attributes of " ++ task.name path) refusal, isNew)
      | .ok (_, node) =>
        match ← nodeAt copy true with
        | .ok (_, old) =>
          if old.isDirectory then makeLeading target rest isNew
          else return (← task.refuse (task.name copy ++ " exists but is not a directory"), isNew)
        | .error _ =>
          let made ← makeNode
            { source := path, target := copy, isOperand := false, follow := .always, isNew := true,
              isMissing := false, above := [], hasNewAbove := false, top := (path, copy) }
            .directory (← newMode task node true)
          match made with
          | .error refusal =>
            return (← task.refuseAs ("cannot make directory " ++ task.name copy) refusal, isNew)
          | .ok () =>
            task.announce (path ++ " -> " ++ copy)
            makeLeading target rest true

/-! ## Operands -/

/-- Copies operands into a directory. -/
def copyInto (directory : String) : List String → Copying Bool
  | [] => return true
  | operand :: rest => do
    let source := if task.wish.strips then withoutSlashes operand else operand
    let isFine ← if task.wish.parents then do
        let path := withoutSlashes source
        let (isThere, isNew) ← makeLeading task directory (leading path) false
        if isThere then copyOperand task source (inside directory path) isNew false else pure false
      else copyOperand task source (copyPath directory source) false false
    let others ← copyInto directory rest
    return isFine && others

/-- What is wrong with the operands, or where they are copied to: a directory, or a path where something
is or not. -/
inductive Place where
  | directory (path : String) (sources : List String)
  | path (source target : String) (isMissing : Bool)

/-- Where operands are copied to. -/
def placeOf (job : Job) (wish : Wish) (files : Files) (directory : Location) (operands : List String) :
    Except Fault Place := do
  let name (path : String) : String := Quotation.always job.isWide path
  let open' (path : String) : Except Refusal Unit := do
    let (_, node) ← files.status directory path
    if !node.isDirectory then throw .notDirectory
  match operands, wish.target with
  | [], _ => throw { text := "missing file operand", refers := true }
  | [operand], none =>
    throw { text := "missing destination file operand after " ++ name operand, refers := true }
  | operands, some target =>
    if wish.noTarget then
      throw { text := "cannot combine --target-directory (-t) and --no-target-directory (-T)" }
    match open' target with
    | .error refusal => throw { text := "target directory " ++ name target ++ ": " ++ refusal.text }
    | .ok () => return .directory target operands
  | source :: target :: rest, none =>
    let last := operands.getLast?.getD target
    if wish.noTarget then
      match rest with
      | [] => return .path source target false
      | extra :: _ => throw { text := "extra operand " ++ name extra, refers := true }
    else
      match open' last, rest with
      | .ok (), _ => return .directory last operands.dropLast
      | .error refusal, [] => return .path source target (refusal = .noEntry)
      | .error refusal, _ => throw { text := "target " ++ name last ++ ": " ++ refusal.text }

/-- Copies operands. -/
def copyAll (place : Place) : Copying Bool := do
  match place with
  | .directory path sources => copyInto task path sources
  | .path source target isMissing =>
    let files ← Act.files
    let directory ← Act.directory
    let isFile := (files.status directory target).toOption.any fun found =>
      match found.2.content with
      | .file _ | .program _ => true
      | _ => false
    match task.wish.backup.filter fun _ => task.wish.forces && source == target && isFile with
    | some kind =>
      let task := { task with wish := { task.wish with backup := none } }
      copyOperand task source (backupPath files directory task.wish kind target) false false
    | none => copyOperand task source target false isMissing

/-- What is told of skipping files. -/
def skipWarning : String :=
  "warning: behavior of -n is non-portable and may change in future; use --update=none instead"

end Copy

open Copy in
/-- Copies files. -/
def cp : Job → Act Nat := withOptions known 1 fun job arguments => do
  for given in arguments.options do
    if given.name = "n" then warn job skipWarning
  let prepared : Except Fault (Wish × Place) ← do
    let files ← Act.files
    let directory ← Act.directory
    pure do
      let wish ← Wish.ofArguments job arguments
      return (wish, ← placeOf job wish files directory arguments.operands)
  match prepared with
  | .error fault => complain job fault
  | .ok (wish, place) =>
    match place, wish.parents with
    | .path _ _ _, true => misuse job "with --parents, the destination must be a directory" 1
    | _, _ =>
      let isMultiple := match place with
        | .directory _ sources => 1 < sources.length
        | .path _ _ _ => false
      let (isFine, progress) ← (copyAll ⟨job, wish, isMultiple⟩ place).run {}
      match progress.unprinted with
      | some refusal =>
        warn job ("write error: " ++ refusal.text)
        return 1
      | none => return if isFine then 0 else 1

end Runbook.Host.Utility
