import Runbook.Host.Shell.Builtin.Directory
import Runbook.Host.Shell.Builtin.Inquiry
import Runbook.Host.Shell.Builtin.Process
import Runbook.Host.Shell.Builtin.Text

/-!
# Commands of the shell

The commands that the shell itself carries out, by their names, but for those that carry out other
commands. Some of them change what is carried out next, by a `Stop`.
-/

namespace Runbook.Host.Shell.Builtin

/-- A command that only has a status. -/
def constant (status : Nat) : Action := fun _ => return status

/-- Ends loops, or goes on with their next round. Outside of loops it does nothing. -/
def skipLoops (reason : Nat → Stop) : Action := fun arguments => do
  let count ← (arguments.head?.map Run.number).getD (pure 1)
  if count = 0 then Run.fail ("Illegal number: " ++ arguments.headD "")
  Run.setStatus 0
  let count := min count (← Run.state).loops
  if count = 0 then return 0
  Run.stop (reason count)

/-- Ends a function or a script. -/
def leave : Action := fun arguments => do
  match arguments.head? with
  | none => Run.stop (.returns false)
  | some text =>
    Run.setStatus (← Run.number text)
    Run.stop (.returns true)

/-- Ends the shell. -/
def exit : Action := fun arguments => do
  if let some text := arguments.head? then
    let status ← Run.number text
    Run.modify fun state => { state with statusBefore := some status }
  Run.stop (.departure true)

/-- The commands by their names. -/
def table : List (String × Action) := [
  (":", constant 0), ("true", constant 0), ("false", constant 1),
  ("break", skipLoops .breaks), ("continue", skipLoops .continues), ("return", leave), ("exit", exit),
  ("export", declare "export" false), ("readonly", declare "readonly" true), ("local", localNames),
  ("set", set), ("shift", shift), ("unset", unset), ("getopts", getopts), ("read", read),
  ("alias", aliasNames), ("unalias", unalias),
  ("times", times), ("trap", trap), ("kill", kill), ("wait", wait), ("jobs", jobs),
  ("fg", foreground), ("bg", foreground), ("umask", umask), ("ulimit", ulimit),
  ("cd", cd), ("chdir", cd), ("pwd", pwd),
  ("type", type), ("command", command), ("hash", hash),
  ("echo", echo), ("printf", printf), ("test", test "test"), ("[", test "[")]

/-- The command with a name. -/
def find? (name : String) : Option Action := (table.find? (·.1 == name)).map (·.2)

end Runbook.Host.Shell.Builtin
