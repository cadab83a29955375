import Runbook.Host.Shell.Builtin.Basic

/-!
# Commands of the shell: processes and signals

The commands that send signals, wait for processes or list them, say what is done when signals come, and
change what processes may do.
-/

namespace Runbook.Host.Shell.Builtin

/-! ## Signals -/

/-- The names of the signals that have one, by their numbers. -/
def signalNames : List (Nat × String) := [
  (0, "EXIT"), (1, "HUP"), (2, "INT"), (3, "QUIT"), (4, "ILL"), (5, "TRAP"), (6, "ABRT"), (7, "BUS"),
  (8, "FPE"), (9, "KILL"), (10, "USR1"), (11, "SEGV"), (12, "USR2"), (13, "PIPE"), (14, "ALRM"),
  (15, "TERM"), (17, "CHLD"), (18, "CONT"), (19, "STOP"), (20, "TSTP"), (21, "TTIN"), (22, "TTOU"),
  (23, "URG"), (24, "XCPU"), (25, "XFSZ"), (26, "VTALRM"), (27, "PROF"), (28, "WINCH"), (29, "IO"),
  (30, "PWR"), (31, "SYS")]

/-- The number of signals, counted from zero. -/
def signalCount : Nat := 65

/-- The first and the last of the signals that have no meaning of their own, and the last one whose name
is told from the first. -/
def realTime : Nat × Nat × Nat := (34, 64, 49)

/-- The name of a signal. -/
def signalName (signal : Nat) : String :=
  let (first, last, middle) := realTime
  match signalNames.find? (·.1 == signal) with
  | some (_, name) => name
  | none =>
    if signal < first then toString signal
    else if signal = first then "RTMIN"
    else if signal ≤ middle then "RTMIN+" ++ toString (signal - first)
    else if signal < last then "RTMAX-" ++ toString (last - signal)
    else "RTMAX"

/-- The signal with a name or a number, if it is not below the least one that has a name here. -/
def signal? (least : Nat) (text : String) : Option Nat :=
  if !text.isEmpty && text.toList.all Char.isDigit then text.toNat?.filter (· < signalCount)
  else
    let upper := text.map Char.toUpper
    (List.range signalCount).find? fun signal => least ≤ signal && signalName signal == upper

/-- What the shell does when a signal comes, as its process knows it. -/
def setSignal (signal : Nat) : Run Unit := do
  let state ← Run.state
  if signal = 0 || state.deaf.contains signal then return
  let action := (state.traps.find? (·.1 == signal)).map (·.2)
  Run.act (Act.change fun process =>
    let ignored := process.ignored.filter (· != signal)
    let expected := process.expected.filter (· != signal)
    match action with
    | none => { process with ignored, expected }
    | some "" => { process with ignored := signal :: ignored, expected }
    | some _ => { process with ignored, expected := signal :: expected })

/-- Sets what is done when a signal comes. -/
def setTrap (action : Option String) (signal : Nat) : Run Unit := do
  Run.modify fun state =>
    let others := state.traps.filter (·.1 != signal)
    { state with traps := match action with
      | some action => (signal, action) :: others
      | none => others }
  setSignal signal

/-- Says what is done when signals come, or lists it. -/
def trap : Action := fun arguments => do
  match ← operands arguments with
  | [] =>
    let traps := (← Run.state).traps.mergeSort fun a b => a.1 ≤ b.1
    Run.print (String.join (traps.map fun entry =>
      "trap -- " ++ Table.singleQuoted entry.2 ++ " " ++ signalName entry.1 ++ "\n"))
  | first :: rest =>
    let isReset := rest.isEmpty || (first.toList.all Char.isDigit && (signal? 0 first).isSome)
    let action := if isReset || first = "-" then none else some first
    for name in if isReset then first :: rest else rest do
      match signal? 0 name with
      | none =>
        Run.tell ("trap: " ++ name ++ ": bad trap\n")
        return 1
      | some signal => setTrap action signal
    return 0

/-! ## Teams -/

/-- The team that an argument after a percent sign means. -/
def team (argument : String) : Run Team := do
  let teams := (← Run.state).teams
  let absent := "No such job: " ++ argument
  let orFail (found : Option Team) (fault : String) : Run Team :=
    match found with
    | some team => return team
    | none => Run.fail fault
  match argument.toList with
  | ['%'] | ['%', '%'] | ['%', '+'] => orFail teams.head? "No current job"
  | ['%', '-'] => orFail teams.tail.head? "No previous job"
  | '%' :: digits =>
    let found := (String.ofList digits).toNat?.bind fun number =>
      if digits.all Char.isDigit then teams.find? (·.number == number) else none
    orFail found absent
  | _ => Run.fail absent

/-- Sends a signal to a process. Gives a status. -/
def sendSignal (signal : Nat) (argument : String) : Run Nat := do
  let process ← match argument.toList with
    | '%' :: _ => do
      let _ ← team argument
      pure none
    | '-' :: text => do
      let _ ← Run.number (String.ofList text)
      pure none
    | _ => some <$> Run.number argument
  let isThere ← Run.act fun me next => .step fun machine =>
    match process with
    | none => (next false, machine)
    | some number =>
      if (machine.process? number).isNone then (next false, machine)
      else
        let machine := machine.signal number signal
        if machine.isAlive me then (next true, machine) else (.finish (.signal signal), machine)
  if isThere then return 0
  Run.warn (Refusal.noProcess.text ++ "\n")
  return 1

/-- The usage of the command that sends signals. -/
def killUsage : String :=
  "Usage: kill [-s sigspec | -signum | -sigspec] [pid | job]... or\nkill -l [exitstatus]"

/-- The status of a process that was ended by a signal, less the signal. -/
def signalBase : Nat := 128

/-- Lists signals. -/
def listSignals : List String → Run Nat
  | [] => Run.print ("0\n" ++ String.join ((List.range signalCount).tail.map fun signal =>
      signalName signal ++ "\n"))
  | argument :: _ => do
    let number ← Run.number argument
    let signal := if signalBase < number then number - signalBase else number
    if 0 < signal && signal < signalCount then Run.print (signalName signal ++ "\n")
    else Run.fail ("invalid signal number or exit status: " ++ argument)

/-- What arguments of the command that sends signals ask for: a signal, whether signals are listed, and
operands. -/
def killArguments (arguments : List String) : Run (Option Nat × Bool × List String) := do
  match arguments with
  | [] => Run.fail killUsage
  | first :: rest =>
    match first.toList with
    | '-' :: text =>
      match signal? 1 (String.ofList text) with
      | some signal => return (some signal, false, rest)
      | none =>
        let (given, operands) ← options "ls:" arguments
        let mut signal := none
        for option in given do
          if let some name := option.2 then
            signal := signal? 1 name
            if signal.isNone then Run.fail ("invalid signal number or name: " ++ name)
        return (signal, given.any (·.1 == 'l'), operands)
    | _ => return (none, false, arguments)

/-- Sends a signal to processes, or lists the signals. -/
def kill : Action := fun arguments => do
  let (signal, isList, operands) ← killArguments arguments
  let isWrong := if isList then signal.isSome else operands.isEmpty
  if isWrong then Run.fail killUsage
  if isList then return ← listSignals operands
  let mut status := 0
  for operand in operands do
    if (← sendSignal (signal.getD 15) operand) != 0 then status := 1
  return status

/-! ## Waiting -/

/-- Waits until a child comes to its end, and looks at all that did. Gives none if a signal came before,
which has to be looked at. -/
def awaitChild (awaited : Option Nat) : Run (Option Unit) := do
  if !(← Run.hasChildren) then return some ()
  Run.act (Act.wait (fun process machine =>
    machine.isCalled process || (machine.endedChild? process 0).isSome) none)
  if ← Run.reap awaited 0 then
    Run.reapAll Run.childLimit
    return some ()
  return none

/-- The signal that was expected and has come. -/
def pendingSignal : Run Nat :=
  Run.act (Act.look fun process machine =>
    (((machine.process? process).map (·.pending)).getD []).foldl max 0)

/-- Waits for a team, or for all teams. Gives the status if a signal comes first. The first argument
bounds the number of children. -/
def awaitTeams (number : Option Nat) : Nat → Run (Option Nat)
  | 0 => return none
  | steps + 1 => do
    let isOver (team : Team) : Bool := team.isDone || number.any (· != team.number)
    if (← Run.state).teams.all isOver then return none
    if !(← Run.hasChildren) then return none
    match ← awaitChild number with
    | some () => awaitTeams number steps
    | none => return some (signalBase + (← pendingSignal))

/-- Marks teams whose end is known to whoever asked for it. -/
def markTold (number : Option Nat) : Run Unit := Run.modify fun state =>
  { state with teams := state.teams.map fun team =>
      if team.isDone && number.all (· == team.number) then { team with isTold := true } else team }

/-- Waits for processes. -/
def wait : Action := fun arguments => do
  let operands ← operands arguments
  if operands.isEmpty then
    let interrupted ← awaitTeams none Run.childLimit
    markTold none
    return interrupted.getD 0
  let mut status := 127
  for operand in operands do
    let found ← if operand.toList.head? = some '%' then some <$> team operand
      else do
        let process ← Run.number operand
        pure ((← Run.state).teams.find? (·.last == process))
    if let some found := found then
      match ← awaitTeams (some found.number) Run.childLimit with
      | some interrupted => return interrupted
      | none =>
        markTold (some found.number)
        status := (((← Run.state).team? found.number).map Team.status).getD 0
  return status

/-! ## Lists of teams -/

/-- A text of at least some width. -/
def padded (width : Nat) (text : String) : String :=
  text ++ String.ofList (List.replicate (max 1 (width - text.length)) ' ')

/-- What is said of the end of a process. -/
def endingText : Option Ending → String
  | none => "Running"
  | some (.exit 0) => "Done"
  | some (.exit status) => "Done(" ++ toString (status % 256) ++ ")"
  | some (.signal signal) => Run.signalText signal

/-- How much is told of a team. -/
inductive Detail where
  | standard
  | processes
  | first
  deriving DecidableEq

/-- What is told of a team; `sign` shows how recent it is. -/
def teamText (detail : Detail) (sign : Char) (team : Team) : String :=
  let number := "[" ++ toString team.number ++ "] " ++ String.singleton sign ++ " "
  let state := if team.isDone then endingText ((team.members.getLast?).bind (·.2)) else "Running"
  let processes := team.members.map fun member => toString member.1
  match detail with
  | .first => (processes.head?.getD "") ++ "\n"
  | .standard => padded 33 (number ++ state) ++
      String.join (processes.tail.map fun _ => " | ") ++ "\n"
  | .processes =>
    let indent := String.ofList (List.replicate number.length ' ')
    let first := padded 33 (number ++ (processes.head?.getD "") ++ " " ++ state)
    let others := processes.tail.map fun process =>
      let text := " |\n" ++ indent ++ process ++ " "
      text ++ String.ofList (List.replicate (max 1 (33 - (text.length - 3))) ' ')
    String.join (first :: others) ++ "\n"

/-- Tells of teams. What came to its end is forgotten then. -/
def tellTeams (detail : Detail) : List Team → Run Unit
  | [] => return ()
  | team :: rest => do
    let teams := (← Run.state).teams
    let sign := if teams.head?.any (·.number == team.number) then '+'
      else if teams.tail.head?.any (·.number == team.number) then '-'
      else ' '
    let team := ((← Run.state).team? team.number).getD team
    let _ ← Run.print (teamText detail sign team)
    if detail != .first && team.isDone then Run.modify (·.withoutTeam team.number)
    tellTeams detail rest

/-- Lists the teams. -/
def jobs : Action := fun arguments => do
  let (given, operands) ← options "lp" arguments
  let detail := match (given.getLast?).map (·.1) with
    | some 'l' => Detail.processes
    | some _ => .first
    | none => .standard
  if operands.isEmpty then
    Run.reapAll Run.childLimit
    tellTeams detail (← Run.state).teams
  else
    for operand in operands do
      tellTeams detail [← team operand]
  return 0

/-- Brings a team to the front, which cannot be done. -/
def foreground : Action := fun arguments => do
  let operands ← operands arguments
  let teams := (← Run.state).teams
  match operands, teams with
  | [], [] => Run.fail "No current job"
  | [], _ => Run.fail "job (null) not created under job control"
  | operand :: _, _ =>
    let _ ← team operand
    Run.fail ("job " ++ operand ++ " not created under job control")

/-! ## The mask of new files -/

/-- The bits of a class of users. -/
def userBits : Char → Nat
  | 'u' => 0o700
  | 'g' => 0o070
  | 'o' => 0o007
  | _ => 0o777

/-- The bits of a permission, for all users. -/
def permissionBits (mode : Nat) : Char → Option Nat
  | 'r' => some 0o444
  | 'w' => some 0o222
  | 'x' => some 0o111
  | 'X' => some (if mode &&& 0o111 = 0 then 0 else 0o111)
  | 's' => some 0
  | 'u' => some ((mode / 64 % 8) * 0o111)
  | 'g' => some ((mode / 8 % 8) * 0o111)
  | 'o' => some ((mode % 8) * 0o111)
  | _ => none

/-- Bits without others. -/
def without (bits others : Nat) : Nat := bits - (bits &&& others)

/-- Changes permissions by operators, for some users. The first argument bounds their number. -/
def applyOperators (users : Nat) : Nat → List Char → Nat → Option Nat
  | 0, _, _ => none
  | _ + 1, [], mode => some mode
  | steps + 1, operator :: rest, mode => do
    let letters := rest.takeWhile fun c => (permissionBits mode c).isSome
    let bits := (letters.filterMap (permissionBits mode)).foldl (· ||| ·) 0 &&& users
    let mode ← match operator with
      | '+' => some (mode ||| bits)
      | '-' => some (without mode bits)
      | '=' => some (without mode users ||| bits)
      | _ => none
    applyOperators users steps (rest.drop letters.length) mode

/-- Changes permissions by a clause. -/
def applyClause (clause : List Char) (mode : Nat) : Option Nat :=
  let users := clause.takeWhile fun c => "ugoa".toList.contains c
  let operators := clause.drop users.length
  if operators.isEmpty then none
  else
    let bits := if users.isEmpty then 0o777 else (users.map userBits).foldl (· ||| ·) 0
    applyOperators bits (operators.length + 1) operators mode

/-- Changes permissions by clauses; a comma may stand at their end. -/
def applyClauses : List (List Char) → Nat → Option Nat
  | [], mode | [[]], mode => some mode
  | clause :: rest, mode => do applyClauses rest (← applyClause clause mode)

/-- Changes permissions as a text says. -/
def changePermissions (text : String) (mode : Nat) : Option Nat :=
  match cutAt ',' text.toList with
  | [] :: _ :: _ => none
  | clauses => applyClauses clauses mode

/-- The permissions that a mask leaves, by letters. -/
def maskText (mask : Nat) : String :=
  let mode := without 0o777 mask
  let letters (n : Nat) : String :=
    (if n &&& 4 != 0 then "r" else "") ++ (if n &&& 2 != 0 then "w" else "") ++
      (if n &&& 1 != 0 then "x" else "")
  "u=" ++ letters (mode / 64 % 8) ++ ",g=" ++ letters (mode / 8 % 8) ++ ",o=" ++ letters (mode % 8)

/-- Sets what others may not do with new files, or tells it. -/
def umask : Action := fun arguments => do
  let (given, operands) ← options "S" arguments
  let mask ← Run.act (Act.look fun number machine =>
    ((machine.process? number).map (·.mask)).getD 0)
  let set (mask : Nat) : Run Nat := do
    Run.act (Act.change fun process => { process with mask := mask % 512 })
    return 0
  match operands with
  | [] =>
    if given.isEmpty then
      let digits := Nat.toDigits 8 mask
      Run.print (String.ofList (List.replicate (4 - digits.length) '0' ++ digits) ++ "\n")
    else Run.print (maskText mask ++ "\n")
  | text :: _ =>
    if text.toList.head?.any Char.isDigit then
      match Numeral.inBase 8 text.toList with
      | some (mask, []) => set mask
      | _ => Run.fail ("Illegal number: " ++ text)
    else
      match changePermissions text (without 0o777 mask) with
      | some mode => set (without 0o777 mode)
      | none => Run.fail ("Illegal mode: " ++ text)

/-! ## Bounds -/

/-- A bound of processes: its letter, its name, the size of its unit and its usual value. -/
structure Bound where
  letter : Char
  name : String
  unit : Nat
  usual : Option Nat

/-- The bounds of processes. -/
def bounds : List Bound := [
  ⟨'t', "time(seconds)", 1, none⟩, ⟨'f', "file(blocks)", 512, none⟩,
  ⟨'d', "data(kbytes)", 1024, none⟩, ⟨'s', "stack(kbytes)", 1024, some 8192⟩,
  ⟨'c', "coredump(blocks)", 512, some 0⟩, ⟨'m', "memory(kbytes)", 1024, none⟩,
  ⟨'l', "locked memory(kbytes)", 1024, some 8192⟩, ⟨'p', "process", 1, some 128620⟩,
  ⟨'n', "nofiles", 1, some 20000⟩, ⟨'v', "vmemory(kbytes)", 1024, none⟩,
  ⟨'w', "locks", 1, none⟩, ⟨'r', "rtprio", 1, some 0⟩]

/-- The letters of the options for bounds. -/
def boundOptions : String := "HSa" ++ String.ofList (bounds.map (·.letter))

/-- The value of a bound. -/
def boundText : Option Nat → String
  | none => "unlimited"
  | some value => toString value

/-- Sets or tells a bound of the process. -/
def ulimit : Action := fun arguments => do
  let (given, operands) ← options boundOptions arguments
  let letters := (given.map (·.1)).filter fun c => c != 'H' && c != 'S'
  let changed ← Run.act (Act.look fun number machine =>
    ((machine.process? number).map (·.bounds)).getD [])
  let value (bound : Bound) : Option Nat :=
    ((changed.find? (·.1 == bound.letter)).map (·.2)).getD bound.usual
  let letter := (letters.filter (· != 'a')).getLast?.getD 'f'
  let bound := (bounds.find? (·.letter == letter)).getD ⟨'f', "file(blocks)", 512, none⟩
  match operands with
  | [] =>
    if letters.contains 'a' then
      Run.print (String.join (bounds.map fun bound =>
        padded 21 bound.name ++ boundText (value bound) ++ "\n"))
    else Run.print (boundText (value bound) ++ "\n")
  | [text] =>
    if letters.contains 'a' then Run.fail "too many arguments"
    let number := if text = "unlimited" then some none
      else if text.isEmpty then some (some 0)
      else match Numeral.inBase 10 text.toList with
        | some (n, []) => some (some n)
        | _ => none
    match number with
    | none => Run.fail "bad number"
    | some new =>
      Run.act (Act.change fun process => { process with
        bounds := (letter, new) :: process.bounds.filter (·.1 != letter) })
      return 0
  | _ => Run.fail "too many arguments"

/-- Tells how long processes were busy. -/
def times : Action := fun _ =>
  Run.print "0m0.000000s 0m0.000000s\n0m0.000000s 0m0.000000s\n"

end Runbook.Host.Shell.Builtin
