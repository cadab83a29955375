import Runbook.Host.Shell.Syntax

/-!
# The variables of a shell

A `Table` holds the variables of a shell in the order in which they came to be. A variable may be
declared without having a value, for the programs that the shell starts, or as one that keeps its value.

* `Table.set` gives a variable a value, and `Table.clear` takes it away; both refuse if the variable
  keeps its value.
* `Table.environment` lists what a program is given, in the order of the groups of the names.
-/

namespace Runbook.Host.Shell

/-- A variable. -/
structure Variable where
  name : String
  value : Option String
  isExported : Bool
  isReadOnly : Bool
  /-- The variable stays in the table when it loses its value. -/
  stays : Bool
  deriving Repr, DecidableEq

/-- The variables of a shell. -/
abbrev Table := List Variable

namespace Table

/-- The variable with a name. -/
def find? (table : Table) (name : String) : Option Variable := List.find? (·.name == name) table

/-- The value of a variable. -/
def valueOf? (table : Table) (name : String) : Option String := (table.find? name).bind (·.value)

/-- A variable in place of the one of its name. -/
def put (table : Table) (variable' : Variable) : Table :=
  if (table.find? variable'.name).isSome then
    table.map fun other => if other.name = variable'.name then variable' else other
  else table ++ [variable']

/-- Removes a variable. -/
def remove (table : Table) (name : String) : Table := table.filter (·.name != name)

/-- Gives a variable a value; it is exported if that is asked for. None if the variable is read only. -/
def set (table : Table) (name value : String) (exports : Bool) : Option Table :=
  match table.find? name with
  | none => some (table.put ⟨name, some value, exports, false, false⟩)
  | some found =>
    if found.isReadOnly then none
    else some (table.put
      { found with value := some value, isExported := found.isExported || exports })

/-- Takes the value of a variable away. None if the variable is read only. -/
def clear (table : Table) (name : String) : Option Table :=
  match table.find? name with
  | none => some table
  | some found =>
    if found.isReadOnly then none
    else if found.stays then some (table.put { found with value := none })
    else some (table.remove name)

/-- The group of a name. -/
def group (name : String) : Nat :=
  let numbers := name.toList.map Char.toNat
  (16 * numbers.headD 0 + numbers.foldl (· + ·) 0) % 39

/-- What a program is given. -/
def environment (table : Table) : List (String × String) :=
  let exported := table.filterMap fun found =>
    if found.isExported then found.value.map (found.name, ·) else none
  exported.mergeSort fun a b => group a.1 ≤ group b.1

/-- The variables in the order of their names. -/
def sorted (table : Table) : Table := table.mergeSort fun a b => a.name ≤ b.name

/-- A text between single quotes; a single quote in it stands between double quotes. -/
def singleQuoted (text : String) : String :=
  let pieces := go text.toList
  if pieces.isEmpty then "''" else String.join pieces
where
  /-- Runs of quotes and of other characters, each in quotes. -/
  go (text : List Char) : List String :=
    let runs := text.splitBy fun a b => (a == '\'') == (b == '\'')
    let before := if text.head? = some '\'' then ["''"] else []
    before ++ runs.map fun run =>
      if run.head? = some '\'' then "\"" ++ String.ofList run ++ "\""
      else "'" ++ String.ofList run ++ "'"

/-- A variable as an assignment, after some text. -/
def line (before : String) (found : Variable) : String :=
  before ++ found.name ++ ((found.value.map fun value => "=" ++ singleQuoted value).getD "") ++ "\n"

/-- The variables that are always there. -/
def standard (path : String) : Table := [
  ⟨"IFS", some " \t\n", false, false, true⟩,
  ⟨"PATH", some path, false, false, true⟩,
  ⟨"PS1", some "# ", false, false, true⟩,
  ⟨"PS2", some "> ", false, false, true⟩,
  ⟨"PS4", some "+ ", false, false, true⟩,
  ⟨"OPTIND", some "1", false, false, true⟩,
  ⟨"MAIL", none, false, false, true⟩,
  ⟨"MAILPATH", none, false, false, true⟩,
  ⟨"TERM", none, false, false, true⟩,
  ⟨"HISTSIZE", none, false, false, true⟩]

end Table

end Runbook.Host.Shell
