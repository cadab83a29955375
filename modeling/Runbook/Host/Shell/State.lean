import Runbook.Host.Shell.Grammar
import Runbook.Host.Shell.Table
import Runbook.Host.Program

/-!
# The state of a shell

What a shell remembers: its variables, its parameters, its functions and aliases, its switches, what it
does when signals come, and the processes that it has started.
-/

namespace Runbook.Host.Shell

/-- A command that was given a name, and the line where this was done. -/
structure Function where
  body : Command
  line : Nat

/-- Where a program was found: the place of the directory among those that are looked through, and
whether it has to be looked for anew. -/
structure Remembered where
  index : Nat
  isStale : Bool
  deriving Repr

/-- Processes that were started together, and how they came to their ends. -/
structure Team where
  /-- The number under which the user knows them. -/
  number : Nat
  members : List (Nat × Option Ending)
  /-- Somebody was told of their end. -/
  isTold : Bool
  isBackground : Bool

namespace Team

/-- All processes came to their ends. -/
def isDone (team : Team) : Bool := team.members.all (·.2.isSome)

/-- The status of the last process. -/
def status (team : Team) : Nat :=
  ((team.members.getLast?).bind (·.2)).elim 0 Ending.status

/-- The number of the last process. -/
def last (team : Team) : Nat := (team.members.getLast?).elim 0 (·.1)

end Team

/-- What a variable was before a function or a command gave it a value of its own. -/
inductive Saved where
  | «variable» (name : String) (before : Option Variable)
  | switches (before : List Char)

/-- The state of a shell. -/
structure State where
  /-- The process that the shell is. -/
  number : Nat
  /-- The process of the shell that was started first. -/
  root : Nat
  name : String
  arguments : List String
  table : Table
  /-- The letters of the switches that are on. -/
  switches : List Char
  functions : List (String × Function) := []
  aliases : List (String × String) := []
  /-- Where programs were found. -/
  places : List (String × Remembered) := []
  /-- The commands for signals, or for the end of the shell. -/
  traps : List (Nat × String) := []
  /-- The signals that were ignored from the beginning. -/
  deaf : List Nat := []
  teams : List Team := []
  lastChild : Option Nat := none
  /-- The status of the last command. -/
  status : Nat := 0
  /-- The status of the last command whose output took its place. -/
  outputStatus : Nat := 0
  /-- The status before a signal, while it is dealt with. -/
  statusBefore : Option Nat := none
  /-- The line, counted from the start of the function. -/
  line : Nat := 0
  /-- The line that messages tell. -/
  toldLine : Nat := 0
  functionLine : Nat := 0
  /-- The line up to which the text of the commands was read. -/
  inputLine : Nat := 1
  /-- The command that is carried out, as messages name it. -/
  commandName : Option String := none
  loops : Nat := 0
  /-- The number of functions that are being carried out. -/
  depth : Nat := 0
  frames : List (List Saved) := []
  /-- The texts that were read after commands. -/
  documents : Array Document := #[]
  /-- The path of the directory, as it was given. -/
  directory : String
  /-- The next argument that is looked at for options, and the place in it. -/
  optionIndex : Nat := 1
  optionOffset : Option Nat := none
  /-- The commands that the prompt of a trace holds are being carried out. -/
  isTracing : Bool := false

namespace State

/-- A switch is on. -/
def has (state : State) (letter : Char) : Bool := state.switches.contains letter

/-- The letters of the switches, in the order in which they are told. -/
def switchLetters : List Char :=
  ['e', 'f', 'I', 'i', 'm', 'n', 's', 'x', 'v', 'V', 'E', 'C', 'a', 'b', 'u', 'p']

/-- The long names of the switches. Two of them have no letter that can be given. -/
def switchNames : List (Char × String) := [
  ('e', "errexit"), ('f', "noglob"), ('I', "ignoreeof"), ('i', "interactive"), ('m', "monitor"),
  ('n', "noexec"), ('s', "stdin"), ('x', "xtrace"), ('v', "verbose"), ('V', "vi"), ('E', "emacs"),
  ('C', "noclobber"), ('a', "allexport"), ('b', "notify"), ('u', "nounset"), ('p', "privileged"),
  ('\x01', "nolog"), ('\x02', "debug")]

/-- Turns a switch on or off. -/
def turn (state : State) (letter : Char) (on : Bool) : State :=
  let others := state.switches.filter (· != letter)
  let others := if on && letter = 'V' then others.filter (· != 'E')
    else if on && letter = 'E' then others.filter (· != 'V')
    else others
  { state with switches := if on then letter :: others else others }

/-- The letters of the switches that are on, as a text. -/
def switchText (state : State) : String :=
  String.ofList (switchLetters.reverse.filter state.has)

/-- The value of a variable. -/
def valueOf? (state : State) (name : String) : Option String := state.table.valueOf? name

/-- The characters between fields; without a value those of a blank, a tab and the end of a line. -/
def separators (state : State) : String := (state.table.valueOf? "IFS").getD " \t\n"

/-- The directories in which programs are looked for. -/
def path (state : State) : String := (state.table.valueOf? "PATH").getD ""

/-- The team with a number. -/
def team? (state : State) (number : Nat) : Option Team := state.teams.find? (·.number == number)

/-- Without the team with a number. -/
def withoutTeam (state : State) (number : Nat) : State :=
  { state with teams := state.teams.filter (·.number != number) }

/-- Changes the team with a number. -/
def modifyTeam (state : State) (number : Nat) (change : Team → Team) : State :=
  { state with teams := state.teams.map fun team =>
      if team.number = number then change team else team }

/-- A new team. It gets the least number that is free, or that of a team which is done with. -/
def addTeam (state : State) : Nat × State :=
  let isFree (number : Nat) : Bool :=
    (state.team? number).all fun team => team.isDone && team.isTold
  let numbers := (List.range (state.teams.length + 1)).map (· + 1)
  let number := (numbers.find? isFree).getD 0
  let state := state.withoutTeam number
  (number, { state with teams := ⟨number, [], false, false⟩ :: state.teams })

/-- Notes that a process came to its end, and gives the number of its team. -/
def noteEnding (state : State) (process : Nat) (ending : Ending) : Option Nat × State :=
  let isMember (team : Team) : Bool :=
    !team.isDone && team.members.any fun member => member.1 == process
  match state.teams.find? isMember with
  | none => (none, state)
  | some team =>
    (some team.number, state.modifyTeam team.number fun team => { team with
      members := team.members.map fun member =>
        if member.1 = process then (process, some ending) else member })

end State

end Runbook.Host.Shell
