import Runbook.Host.Octets
import Runbook.Launch.IoError

/-!
# Files

A tree of files. A `Location` is the list of the names that lead from the root to a place. At a place
there may be a name for a `Node`; two names may be names of one node.

* `Files.resolve` follows a path from a directory to a place, through links. All names but the last
  must be those of directories.
* `Files.status` finds what a path leads to, and `Files.creation` where a new file of that path goes.
* A `Refusal` says why a machine does not do what it is asked for.
-/

namespace Runbook.Host

/-! ## Refusals -/

/-- Why a machine does not do what it is asked for. -/
inductive Refusal where
  | notPermitted
  | noEntry
  | noProcess
  | longArguments
  | noFormat
  | badDescriptor
  | denied
  | exists
  | notDirectory
  | isDirectory
  | invalid
  | noSpace
  | brokenPipe
  | longName
  | manyLinks
  deriving DecidableEq, Repr

namespace Refusal

/-- The number of the error. -/
def number : Refusal → Nat
  | notPermitted => 1
  | noEntry => 2
  | noProcess => 3
  | longArguments => 7
  | noFormat => 8
  | badDescriptor => 9
  | denied => 13
  | .exists => 17
  | notDirectory => 20
  | isDirectory => 21
  | invalid => 22
  | noSpace => 28
  | brokenPipe => 32
  | longName => 36
  | manyLinks => 40

/-- The text of the error. -/
def text (refusal : Refusal) : String := IoError.numberText refusal.number

/-- The error as a launcher tells it. -/
def toIoError (refusal : Refusal) : IoError := IoError.ofNumber refusal.number

end Refusal

/-! ## The tree -/

/-- The names that lead from the root to a place. -/
abbrev Location := List String

/-- The location as an absolute path. -/
def Location.toPath (location : Location) : String :=
  if location.isEmpty then "/" else String.join (location.map ("/" ++ ·))

/-- What a node holds. -/
inductive Content where
  | file (octets : String)
  | directory
  /-- Another path, which is followed in place of this one. -/
  | link (target : String)
  /-- A program that can be started. -/
  | program (name : String)
  /-- A device that is always empty. -/
  | void
  /-- A device that takes nothing. -/
  | full
  deriving DecidableEq, Repr

/-- Something that names lead to. -/
structure Node where
  content : Content
  /-- Who may do what, three bits each for the owner, the group and all others. -/
  mode : Nat
  /-- When it was changed, in nanoseconds. -/
  changed : Int
  deriving DecidableEq, Repr

namespace Node

/-- A directory that was always there. -/
def directory : Node := ⟨.directory, 0o755, 0⟩

/-- A file that was always there. -/
def file (octets : String) : Node := ⟨.file octets, 0o644, 0⟩

/-- The octets in a node. -/
def octets (node : Node) : String :=
  match node.content with
  | .file octets => octets
  | _ => ""

/-- The node is a directory. -/
def isDirectory (node : Node) : Bool := node.content == .directory

/-- The node is a file with octets, or a program. -/
def isRegular (node : Node) : Bool :=
  match node.content with
  | .file _ | .program _ => true
  | _ => false

/-- The node is a device. -/
def isDevice (node : Node) : Bool := node.content == .void || node.content == .full

/-- The node is a link. -/
def isLink (node : Node) : Bool :=
  match node.content with
  | .link _ => true
  | _ => false

/-- The size of a program. -/
def programSize : Nat := 35336

/-- The size of a directory. -/
def directorySize : Nat := 4096

/-- The size of a node, in octets. -/
def size (node : Node) : Nat :=
  match node.content with
  | .file octets => octets.length
  | .directory => directorySize
  | .link target => target.length
  | .program _ => programSize
  | .void | .full => 0

/-- The node may be started. -/
def isExecutable (node : Node) : Bool := node.mode &&& 0o111 != 0

end Node

/-- A tree of files. Each location occurs at most once; the root is not among them. -/
structure Files where
  names : List (Location × Nat)
  nodes : Array Node
  /-- The first node is that of the root. -/
  rooted : 0 < nodes.size
  /-- Every name is that of a node. -/
  named : ∀ entry ∈ names, entry.2 < nodes.size
  deriving Repr

/-- Cuts a text at a character; the pieces between are kept even if they are empty. -/
def cutAt (separator : Char) : List Char → List (List Char)
  | [] => [[]]
  | c :: rest =>
    if c = separator then [] :: cutAt separator rest
    else
      match cutAt separator rest with
      | [] => [[c]]
      | piece :: pieces => (c :: piece) :: pieces

namespace Files

/-- No file but the root. -/
def empty : Files := ⟨[], #[.directory], Nat.zero_lt_one, fun _ hentry => nomatch hentry⟩

/-- The number of the node at a location. -/
def number? (files : Files) (location : Location) : Option Nat :=
  if location.isEmpty then some 0
  else (files.names.find? (·.1 == location)).map (·.2)

/-- The node with a number. -/
def node (files : Files) (number : Nat) : Node := files.nodes.getD number .directory

/-- What there is at a location. -/
def node? (files : Files) (location : Location) : Option Node :=
  (files.number? location).map files.node

/-- Changes a node. -/
def modify (files : Files) (number : Nat) (change : Node → Node) : Files where
  names := files.names
  nodes := files.nodes.modify number change
  rooted := by
    rw [Array.size_modify]
    exact files.rooted
  named entry hentry := by
    rw [Array.size_modify]
    exact files.named entry hentry

/-- Adds nodes without names. -/
def add (files : Files) (nodes : Array Node) : Files where
  names := files.names
  nodes := files.nodes ++ nodes
  rooted := by
    have hroot := files.rooted
    rw [Array.size_append]
    omega
  named entry hentry := by
    have hnumber := files.named entry hentry
    rw [Array.size_append]
    omega

/-- Says when the directory above a location was changed. -/
def stampAbove (files : Files) (location : Location) (now : Int) : Files :=
  match files.number? location.dropLast with
  | some number => files.modify number ({ · with changed := now })
  | none => files

/-- Takes a name away. -/
def erase (files : Files) (location : Location) (now : Int) : Files :=
  let files := { files with
    names := files.names.filter (·.1 != location)
    named := fun entry hentry => files.named entry ((List.mem_filter.mp hentry).1) }
  files.stampAbove location now

/-- Gives a node a name, in place of what the name is for. There is nothing to name under the number of
no node. -/
def link (files : Files) (location : Location) (number : Nat) (now : Int) : Files :=
  let files := files.erase location now
  if hnumber : number < files.nodes.size then
    { files with
      names := files.names ++ [(location, number)]
      named := fun entry hentry => by
        rcases List.mem_append.mp hentry with hentry | hentry
        · exact files.named entry hentry
        · rw [List.mem_singleton.mp hentry]
          exact hnumber }
  else files

/-- Puts a new node at a location, in place of what there is. -/
def put (files : Files) (location : Location) (node : Node) (now : Int) : Files :=
  (files.add #[node]).link location files.nodes.size now

/-- The directories that lead to a location, the location excluded. -/
def above (location : Location) : List Location :=
  (List.range location.length).map location.take

/-- Makes the directories that lead to a location and are not there. -/
def prepare (files : Files) (location : Location) (now : Int) : Files :=
  (above location).foldl (fun files directory =>
    if (files.number? directory).isSome then files
    else files.put directory { Node.directory with changed := now } now) files

/-- The names in a directory, with the nodes that they name. -/
def entries (files : Files) (location : Location) : List (String × Nat) :=
  files.names.filterMap fun entry =>
    match entry.1.getLast? with
    | some name => if entry.1.dropLast = location then some (name, entry.2) else none
    | none => none

/-- The number of names of a node. -/
def nameCount (files : Files) (number : Nat) : Nat := (files.names.filter (·.2 == number)).length

/-! ## Paths -/

/-- The longest name of a file. -/
def nameLimit : Nat := 255

/-- The longest path, less one. -/
def pathLimit : Nat := 4095

/-- The number of links that are followed on one path. -/
def linkLimit : Nat := 40

/-- How a path ends. -/
inductive PathEnd where
  | name
  /-- A slash after a name, or after nothing. -/
  | slash
  /-- One dot or two. -/
  | dot
  deriving DecidableEq, Repr

/-- The names of a path without those that stay where they are. -/
def pathNames (path : String) : List String :=
  ((cutAt '/' path.toList).map String.ofList).filter fun name => !name.isEmpty && name != "."

/-- How a path ends. Slashes after dots do not matter. -/
def pathEnd (path : String) : PathEnd :=
  let names := cutAt '/' path.toList
  match (names.filter (!·.isEmpty)).getLast? with
  | some ['.'] | some ['.', '.'] => .dot
  | _ => if names.getLast? = some [] then .slash else .name

/-- The place from which the names of a path are followed. -/
def pathStart (directory : Location) (path : String) : Location :=
  if path.toList.head? = some '/' then [] else directory

/-- Follows names from a directory, the last one through links too if that is asked for. The first
argument bounds the number of steps, the second one that of links. -/
def followNames (files : Files) (lastToo : Bool) :
    Nat → Nat → Location → List String → Except Refusal Location
  | 0, _, _, _ => .error .manyLinks
  | _ + 1, _, location, [] => .ok location
  | steps + 1, links, location, name :: rest =>
    if nameLimit < name.length then .error .longName
    else
      let next := if name = ".." then location.dropLast else location ++ [name]
      match ((files.node? next).map (·.content) : Option Content) with
      | some (.link target) =>
        if rest.isEmpty && !lastToo then .ok next
        else
          match links with
          | 0 => .error .manyLinks
          | links + 1 =>
            files.followNames lastToo steps links (pathStart location target)
              (pathNames target ++ rest)
      | some .directory => files.followNames lastToo steps links next rest
      | some _ => if rest.isEmpty then .ok next else .error .notDirectory
      | none => if rest.isEmpty then .ok next else .error .noEntry

/-- Follows a path from a directory to a place, where nothing need be. -/
def resolve (files : Files) (directory : Location) (path : String) (lastToo : Bool) :
    Except Refusal Location :=
  if path.isEmpty then .error .noEntry
  else if pathLimit < path.length then .error .longName
  else
    files.followNames (lastToo || pathEnd path != .name) (pathLimit * (linkLimit + 1)) linkLimit
      (pathStart directory path) (pathNames path)

/-- The location of what a path leads to, and the number of its node. -/
def find (files : Files) (directory : Location) (path : String) (lastToo : Bool) :
    Except Refusal (Location × Nat) := do
  let location ← files.resolve directory path lastToo
  match files.number? location with
  | none => throw .noEntry
  | some number =>
    if pathEnd path != .name && !(files.node number).isDirectory then throw .notDirectory
    return (location, number)

/-- What a path leads to. -/
def status (files : Files) (directory : Location) (path : String) : Except Refusal (Location × Node) := do
  let (location, number) ← files.find directory path true
  return (location, files.node number)

/-- There is something at the path. -/
def has (files : Files) (directory : Location) (path : String) : Bool :=
  (files.find directory path true).isOk

/-- The octets of the file at a path. -/
def contents (files : Files) (directory : Location) (path : String) : Except Refusal String := do
  let (_, node) ← files.status directory path
  if node.isDirectory then throw .isDirectory
  return node.octets

/-- The place at which a file can be written under a path: a new one, or one that is there. -/
def creation (files : Files) (directory : Location) (path : String) : Except Refusal Location := do
  let location ← files.resolve directory path true
  match pathEnd path, files.node? location with
  | .slash, _ => throw .isDirectory
  | .dot, none => throw .noEntry
  | .dot, some node => throw (if node.isDirectory then .isDirectory else .notDirectory)
  | .name, some node => if node.isDirectory then throw .isDirectory else return location
  | .name, none => return location

/-- A node that was changed; devices stay what they are. -/
def filled (node : Node) (octets : String) (time : Int) : Node :=
  match node.content with
  | .file _ | .program _ => { node with content := .file octets, changed := time }
  | _ => node

/-- Writes a file, with a mode if it is new. -/
def write (files : Files) (directory : Location) (path : String) (octets : String) (mode : Nat)
    (time : Int) : Except Refusal Files := do
  let location ← files.creation directory path
  match files.number? location with
  | some number =>
    if (files.node number).content = .full && !octets.isEmpty then throw .noSpace
    return files.modify number fun node => filled node octets time
  | none => return files.put location ⟨.file octets, mode, time⟩ time

end Files

end Runbook.Host
