import Runbook.Host.Files
import Runbook.Host.Utility.Copy.Wish

/-!
# Names for copies

What a copy and a backup are called, and when two names are names of one file, so that a copy would
destroy its source.

* `Copy.mayCopy` tells whether a file may be copied over another one.
-/

namespace Runbook.Host.Utility.Copy

/-! ## Paths -/

/-- A path without the slashes at its end. -/
def withoutSlashes (path : String) : String :=
  let stripped := (path.toList.reverse.dropWhile (· == '/')).reverse
  if stripped.isEmpty && !path.isEmpty then "/" else String.ofList stripped

/-- The last name of a path. -/
def lastName (path : String) : String :=
  String.ofList (((withoutSlashes path).toList.reverse.takeWhile (· != '/')).reverse)

/-- The path of the directory that holds the last name of a path. -/
def directoryPart (path : String) : String :=
  let above := ((withoutSlashes path).toList.reverse.dropWhile (· != '/')).reverse
  if above.isEmpty then "." else withoutSlashes (String.ofList above)

/-- A path within a directory. -/
def inside (directory path : String) : String :=
  let path := String.ofList (path.toList.dropWhile (· == '/'))
  let directory := withoutSlashes directory
  if directory = "/" then "/" ++ path else directory ++ "/" ++ path

/-- The path of a copy in a directory. -/
def copyPath (directory source : String) : String :=
  let name := lastName source
  inside directory (if name = ".." then "." else name)

/-! ## Backups -/

/-- The number of a numbered backup of a name. -/
def backupNumber? (name backup : String) : Option Nat :=
  let start := (name ++ ".~").toList
  let rest := backup.toList.drop start.length
  if start.isPrefixOf backup.toList && rest.getLast? = some '~' then
    let digits := rest.dropLast
    if digits.head? = some '0' || digits.isEmpty || !digits.all Char.isDigit then none
    else (String.ofList digits).toNat?
  else none

/-- The name of the next backup, in a directory with some names. -/
def backupName (names : List String) (kind : Backup) (suffix name : String) : String :=
  let numbers := names.filterMap (backupNumber? name)
  if kind = .simple || (kind = .existing && numbers.isEmpty) then name ++ suffix
  else name ++ ".~" ++ toString (numbers.foldl max 0 + 1) ++ "~"

/-- The path of the next backup of a file. -/
def backupPath (files : Files) (directory : Location) (wish : Wish) (kind : Backup) (path : String) :
    String :=
  let above := (files.resolve directory (directoryPart path) true).toOption.getD []
  let names := (files.entries above).map (·.1)
  let name := lastName path
  let backup := backupName names kind (wish.suffix.getD "~") name
  if path.toList.contains '/' then inside (directoryPart path) backup else backup

/-! ## Files with several names -/

/-- Two paths end at the same name. -/
def isSameName (files : Files) (directory : Location) (a b : String) : Bool :=
  match files.resolve directory a false, files.resolve directory b false with
  | .ok a, .ok b => a == b
  | _, _ => false

/-- Whether a file may be copied. -/
inductive Permission where
  | yes
  | no
  /-- Nothing remains to be done. -/
  | done
  deriving DecidableEq

/-- A file may be copied over another one; `source` and `target` are the nodes that were found. -/
def mayCopy (files : Files) (directory : Location) (wish : Wish) (follow : Follow)
    (sourcePath targetPath : String) (source target : Nat) : Permission :=
  let isLink (number : Nat) : Bool := (files.node number).isLink
  let itself (path : String) : Option Nat := ((files.find directory path false).map (·.2)).toOption
  let behind (number : Nat) (path : String) : Option Nat :=
    if isLink number then ((files.find directory path true).map (·.2)).toOption else some number
  let isOne := isSameName files directory sourcePath targetPath
  let allow (b : Bool) : Permission := if b then .yes else .no
  -- What stands under the names themselves is compared once all else allows it.
  let compare (source target : Nat) : Permission :=
    let isSame := source = target
    if wish.backup.isSome then
      if !isSame then allow (!(follow != .never && isLink source && !isLink target))
      else allow (!isOne)
    else if wish.removes && isLink target then .yes
    else if wish.removes && isSame && 1 < files.nameCount target && !isOne then .yes
    else if !isLink source && !isLink target && !isSame then .yes
    else if !isLink source && !isLink target && wish.hardLinks then .done
    else if wish.symbolicLinks && isLink target then .yes
    else if follow = .never then
      match behind source sourcePath, behind target targetPath with
      | some a, some b =>
        if a != b then .yes
        else if wish.hardLinks then (if isLink target then .yes else .done)
        else .no
      | _, _ => .yes
    else .no
  if source = target && wish.hardLinks then .done
  else if follow = .never then
    if isLink source && isLink target then
      if isOne then .no
      else if wish.backup.isNone && source = target then .done
      else .yes
    else compare source target
  else if source != target then .yes
  else
    match itself sourcePath, itself targetPath with
    | some a, some b => if isLink a && isLink b && wish.removes then .yes else compare a b
    | _, _ => .yes

end Runbook.Host.Utility.Copy
