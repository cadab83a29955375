import Runbook.Host.Utility.Options

/-!
# What is asked for when files are copied

`Wish.ofArguments` takes in the options one after the other; of options that exclude each other the last
one counts.
-/

namespace Runbook.Host.Utility.Copy

/-- Which links among the sources are followed. -/
inductive Follow where
  | never
  /-- Those among the operands. -/
  | operands
  | always
  deriving DecidableEq

/-- How the names of backups are made. -/
inductive Backup where
  | simple
  /-- Numbered if there are numbered ones. -/
  | existing
  | numbered
  deriving DecidableEq

/-- What is done where there is a file already. -/
inductive Overwrite where
  | always
  | never
  /-- Somebody is asked. -/
  | asked
  deriving DecidableEq

/-- What a copy has in common with its source. -/
structure Kept where
  mode : Bool := false
  time : Bool := false
  /-- Names of one file become names of one copy. -/
  links : Bool := false

/-- What is asked for. -/
structure Wish where
  follow : Option Follow := none
  kept : Kept := {}
  /-- Copies have the mode of any new file. -/
  refusesMode : Bool := false
  attributesOnly : Bool := false
  recursive : Bool := false
  /-- What is no file is copied as one. -/
  copiesContents : Bool := false
  hardLinks : Bool := false
  symbolicLinks : Bool := false
  overwrite : Overwrite := .always
  /-- Files that are not older are left alone. -/
  update : Bool := false
  /-- What cannot be opened is removed. -/
  forces : Bool := false
  /-- What is there is removed first. -/
  removes : Bool := false
  makesBackups : Bool := false
  backupWord : Option String := none
  backup : Option Backup := none
  suffix : Option String := none
  target : Option String := none
  noTarget : Bool := false
  parents : Bool := false
  strips : Bool := false
  sparse : Option String := none
  clones : Bool := false
  verbose : Bool := false
  /-- It is told how files are copied. -/
  explains : Bool := false

namespace Wish

/-- The links that are followed. -/
def followed (wish : Wish) : Follow :=
  wish.follow.getD (if wish.recursive && !wish.hardLinks then .never else .always)

/-- What is no file is copied as one. -/
def copiesAsFile (wish : Wish) : Bool := !wish.recursive || wish.copiesContents

/-- Links that are sources are followed. -/
def follows (wish : Wish) (isOperand : Bool) : Bool :=
  wish.followed = .always || (isOperand && wish.followed = .operands)

end Wish

/-! ## Options -/

/-- The options. -/
def known : Known := .of "abdfHilLnprsuvxPRTZ" "tS"
  [("archive", "a"), ("attributes-only", "attributes"), ("copy-contents", "contents"),
    ("debug", "debug"), ("dereference", "L"), ("force", "f"), ("interactive", "i"), ("link", "l"),
    ("no-clobber", "n"), ("no-dereference", "P"), ("no-target-directory", "T"),
    ("one-file-system", "x"), ("parents", "parents"), ("path", "parents"), ("recursive", "R"),
    ("remove-destination", "remove"), ("strip-trailing-slashes", "strip"), ("symbolic-link", "s"),
    ("verbose", "v")]
  [("backup", .optional, "b"), ("no-preserve", .required, "no-preserve"),
    ("preserve", .optional, "p"), ("sparse", .required, "sparse"), ("reflink", .optional, "reflink"),
    ("suffix", .required, "S"), ("target-directory", .required, "t"), ("update", .optional, "u"),
    ("context", .optional, "Z")]

/-- The words for what a copy can have in common with its source. -/
def keptWords : List String := ["mode", "timestamps", "ownership", "links", "context", "xattr", "all"]

/-- The words for backups. -/
def backupWords : List (List String × Option Backup) :=
  [(["none", "off"], none), (["simple", "never"], some .simple), (["existing", "nil"], some .existing),
    (["numbered", "t"], some .numbered)]

/-- A list of words, cut at commas. -/
def listed (text : String) : List String := (cutAt ',' text.toList).map String.ofList

/-- Sets what a copy has in common with its source. -/
def keep (wide isKept : Bool) (wish : Wish) (word : String) : Except Fault Wish := do
  let option := if isKept then "--preserve" else "--no-preserve"
  let kept := wish.kept
  match chooseWord wide option (keptWords.map ([·])) word with
  | .error text => throw { text, refers := true }
  | .ok "mode" => return { wish with kept := { kept with mode := isKept }, refusesMode := !isKept }
  | .ok "timestamps" => return { wish with kept := { kept with time := isKept } }
  | .ok "links" => return { wish with kept := { kept with links := isKept } }
  | .ok "all" => return { wish with kept := ⟨isKept, isKept, isKept⟩, refusesMode := !isKept }
  | .ok _ => return wish

/-- Sets what is done where there is a file that may be older. -/
def setUpdate (wide : Bool) (wish : Wish) : Option String → Except Fault Wish
  | none => return { wish with update := true }
  | some word => do
    if wish.overwrite = .never then return wish
    match ← meaning wide "--update" (single [("all", (false, Overwrite.always)),
        ("none", (false, .never)), ("older", (true, .always))]) word with
    | some (update, overwrite) => return { wish with update, overwrite }
    | none => return wish

/-- Takes in an option. -/
def take (wide : Bool) (wish : Wish) (given : Given) : Except Fault Wish := do
  match given.name with
  | "a" => return { wish with follow := some .never, kept := ⟨true, true, true⟩, recursive := true }
  | "attributes" => return { wish with attributesOnly := true }
  | "b" => return { wish with makesBackups := true, backupWord := given.value.or wish.backupWord }
  | "contents" => return { wish with copiesContents := true }
  | "d" => return { wish with follow := some .never, kept := { wish.kept with links := true } }
  | "debug" => return { wish with verbose := true, explains := true }
  | "f" => return { wish with forces := true }
  | "H" => return { wish with follow := some .operands }
  | "i" => return { wish with overwrite := .asked }
  | "l" => return { wish with hardLinks := true }
  | "L" => return { wish with follow := some .always }
  | "n" => return { wish with overwrite := .never, update := false }
  | "no-preserve" => (listed (given.value.getD "")).foldlM (keep wide false) wish
  | "p" =>
    match given.value with
    | some words => (listed words).foldlM (keep wide true) wish
    | none => return { wish with kept := { wish.kept with mode := true, time := true } }
  | "P" => return { wish with follow := some .never }
  | "parents" => return { wish with parents := true }
  | "r" | "R" => return { wish with recursive := true }
  | "reflink" =>
    let clones ← meaning wide "--reflink" (single [("auto", false), ("always", true), ("never", false)])
      (given.value.getD "always")
    return { wish with clones := clones.getD false }
  | "remove" => return { wish with removes := true }
  | "s" => return { wish with symbolicLinks := true }
  | "S" => return { wish with makesBackups := true, suffix := given.value }
  | "sparse" =>
    let words := single [("never", "never"), ("auto", "auto"), ("always", "always")]
    return { wish with sparse := ← meaning wide "--sparse" words (given.value.getD "") }
  | "strip" => return { wish with strips := true }
  | "t" =>
    if wish.target.isSome then throw { text := "multiple target directories specified" }
    return { wish with target := given.value }
  | "T" => return { wish with noTarget := true }
  | "u" => setUpdate wide wish given.value
  | "v" => return { wish with verbose := true }
  | _ => return wish

/-- The kind of backups that is asked for. -/
def backupOf (job : Job) (wish : Wish) : Except Fault (Option Backup) := do
  let kind (option word : String) : Except Fault (Option Backup) :=
    return (← meaning job.isWide option backupWords word).getD none
  if !wish.makesBackups then return none
  match wish.backupWord.filter (!·.isEmpty) with
  | some word => kind "backup type" word
  | none =>
    match (job.valueOf? "VERSION_CONTROL").filter (!·.isEmpty) with
    | some word => kind "$VERSION_CONTROL" word
    | none => return some .existing

/-- The ending of the name of a simple backup. -/
def suffixOf (job : Job) (wish : Wish) : String :=
  ((wish.suffix.or (job.valueOf? "SIMPLE_BACKUP_SUFFIX")).filter fun suffix =>
    !suffix.isEmpty && !suffix.toList.contains '/').getD "~"

/-- What the options of a job ask for. -/
def Wish.ofArguments (job : Job) (arguments : Arguments) : Except Fault Wish := do
  let wish ← arguments.options.foldlM (take job.isWide) {}
  if wish.hardLinks && wish.symbolicLinks then
    throw { text := "cannot make both hard and symbolic links", refers := true }
  if wish.clones && wish.sparse.any (· != "auto") then
    throw { text := "--reflink can be used only with --sparse=auto", refers := true }
  return { wish with backup := ← backupOf job wish, suffix := some (suffixOf job wish) }

end Runbook.Host.Utility.Copy
