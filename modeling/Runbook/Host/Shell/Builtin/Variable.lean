import Runbook.Host.Shell.Builtin.Basic
import Runbook.Host.Shell.Field

/-!
# Commands of the shell: variables and parameters

The commands that declare variables, read them, or forget them, and those that change the positional
parameters, the switches and the aliases.
-/

namespace Runbook.Host.Shell.Builtin

/-! ## Declarations -/

/-- Marks a variable as one for programs, or as one that keeps its value. -/
def markVariable (isReadOnly : Bool) (argument : String) : Run Unit := do
  let (name, value) := nameAndValue argument
  let found := (← Run.state).table.find? name
  if value.isSome || found.isNone then
    Run.checkName name
    value.forM (Run.assign name)
  Run.modify fun state =>
    let found := (state.table.find? name).getD ⟨name, none, state.has 'a', false, false⟩
    { state with table := state.table.put { found with
      isReadOnly := found.isReadOnly || isReadOnly
      isExported := found.isExported || !isReadOnly } }

/-- Marks variables, or lists those that are marked. -/
def declare (name : String) (isReadOnly : Bool) : Action := fun arguments => do
  let (given, names) ← options "p" arguments
  if given.isEmpty && !names.isEmpty then
    names.forM (markVariable isReadOnly)
    return 0
  let table := (← Run.state).table.filter fun found =>
    if isReadOnly then found.isReadOnly else found.isExported
  Run.print (String.join ((Table.sorted table).map (Table.line (name ++ " "))))

/-- Makes a variable local to the innermost frame, and gives it a value if there is one. -/
def makeLocal (exports : Bool) (argument : String) : Run Unit := do
  let (name, value) := nameAndValue argument
  if value.isNone then Run.checkName name
  Run.save name
  value.forM (if exports then Run.assignExported name else Run.assign name)

/-- Makes variables, or the switches, local to a function. -/
def localNames : Action := fun arguments => do
  if (← Run.state).frames.isEmpty then Run.fail "not in a function"
  for argument in arguments do
    if argument = "-" then
      Run.modify fun state => { state with frames := match state.frames with
        | [] => []
        | frame :: frames => (.switches state.switches :: frame) :: frames }
    else makeLocal false argument
  return 0

/-- Forgets variables, or functions. -/
def unset : Action := fun arguments => do
  let (given, names) ← options "vf" arguments
  if (given.getLast?).map (·.1) = some 'f' then
    Run.modify fun state =>
      { state with functions := state.functions.filter fun entry => !names.contains entry.1 }
  else
    for argument in names do
      let (name, _) := nameAndValue argument
      Run.checkName name
      Run.unset name
  return 0

/-! ## Parameters and switches -/

/-- Sets the positional parameters. -/
def setArguments (arguments : List String) : Run Unit :=
  Run.modify fun state => { state with arguments, optionIndex := 1, optionOffset := none }

/-- Drops positional parameters. -/
def shift : Action := fun arguments => do
  let count ← (arguments.head?.map Run.number).getD (pure 1)
  let positional := (← Run.state).arguments
  if positional.length < count then Run.fail "can't shift that many"
  setArguments (positional.drop count)
  return 0

/-- The switches, one in a line. -/
def switchLines (state : State) (asCommands : Bool) : String :=
  let line (entry : Char × String) : String :=
    if asCommands then "set " ++ (if state.has entry.1 then "-o " else "+o ") ++ entry.2 ++ "\n"
    else entry.2 ++ String.ofList (List.replicate (16 - entry.2.length) ' ') ++
      (if state.has entry.1 then "on" else "off") ++ "\n"
  (if asCommands then "" else "Current option settings\n") ++
    String.join (State.switchNames.map line)

/-- Turns a switch on or off by its name, or lists all of them. -/
def switchNamed (on : Bool) : Option String → Run Unit
  | none => do
    let _ ← Run.print (switchLines (← Run.state) (!on))
  | some name =>
    match State.switchNames.find? (·.2 == name) with
    | some (letter, _) => Run.modify (·.turn letter on)
    | none => Run.fail ("Illegal option -o " ++ name)

/-- Turns switches on or off by their letters. The letter for long names takes them off the arguments,
which are given back. -/
def switchLetters (on : Bool) : List Char → List String → Run (List String)
  | [], arguments => return arguments
  | 'o' :: letters, arguments => do
    switchNamed on arguments.head?
    switchLetters on letters arguments.tail
  | letter :: letters, arguments => do
    if !State.switchLetters.contains letter then
      Run.fail ("Illegal option -" ++ String.singleton letter)
    Run.modify (·.turn letter on)
    switchLetters on letters arguments

/-- Sets switches at the start of arguments, and then the positional parameters. The first argument
bounds the number of steps. -/
def setFrom : Nat → List String → Run Unit
  | 0, _ => return ()
  | _ + 1, [] => return ()
  | steps + 1, argument :: rest => do
    match argument.toList with
    | ['-'] =>
      Run.modify fun state => (state.turn 'x' false).turn 'v' false
      if !rest.isEmpty then setArguments rest
    | ['-', '-'] => setArguments rest
    | '-' :: letters => setFrom steps (← switchLetters true letters rest)
    | '+' :: letters => setFrom steps (← switchLetters false letters rest)
    | _ => setArguments (argument :: rest)

/-- Turns the switch for job control off, since there is no terminal. -/
def refuseControl : Run Unit := do
  Run.warn "can't access tty; job control turned off"
  Run.modify (·.turn 'm' false)

/-- Sets switches and positional parameters, or lists the variables. -/
def set : Action := fun arguments => do
  if arguments.isEmpty then
    let table := (← Run.state).table.filter (·.value.isSome)
    Run.print (String.join ((Table.sorted table).map (Table.line "")))
  else
    setFrom (arguments.length + 1) arguments
    if (← Run.state).has 'm' then refuseControl
    return 0

/-! ## Options of scripts -/

/-- What is found when options are looked for. -/
structure Sought where
  letter : Char
  /-- The value, if one is set; it is taken away otherwise. -/
  value : Option String
  /-- What is told. -/
  remark : Option String := none
  /-- The next argument. -/
  index : Nat
  offset : Option Nat := none
  isDone : Bool := false

/-- Looks for the next option in arguments; none if there is nothing that changes the value. -/
def seek (known : List Char) (arguments : List String) (index : Nat) (offset : Option Nat) :
    Sought × Bool :=
  let isSilent := known.head? = some ':'
  let inside := match offset with
    | some offset =>
      if index ≤ 1 then [] else (arguments[index - 2]?.getD "").toList.drop offset
    | none => []
  let atEnd (index : Nat) : Sought × Bool := ({ letter := '?', value := none, index, isDone := true }, false)
  let within (text : List Char) (index : Nat) : Sought × Bool :=
    match text with
    | [] => atEnd index
    | c :: rest =>
      let length := (arguments[index - 2]?.getD "").length
      let offset := some (length - rest.length)
      match kind? known c with
      | none =>
        if isSilent then
          ({ letter := '?', value := some (String.singleton c), index, offset }, true)
        else
          ({ letter := '?', value := none, index, offset
             remark := some ("Illegal option -" ++ String.singleton c) }, true)
      | some false => ({ letter := c, value := some "", index, offset }, true)
      | some true =>
        if !rest.isEmpty then
          ({ letter := c, value := some (String.ofList rest), index }, true)
        else
          match arguments[index - 1]? with
          | some value => ({ letter := c, value := some value, index := index + 1 }, true)
          | none =>
            if isSilent then
              ({ letter := ':', value := some (String.singleton c), index }, true)
            else
              ({ letter := '?', value := none, index
                 remark := some ("No arg for -" ++ String.singleton c ++ " option") }, true)
  if !inside.isEmpty then within inside index
  else
    match (arguments[index - 1]?).map (·.toList) with
    | some ['-', '-'] => atEnd (index + 1)
    | some ('-' :: c :: rest) => within (c :: rest) (index + 1)
    | _ => atEnd index

/-- Looks for the next option among arguments, or among the positional parameters. -/
def getopts : Action := fun arguments => do
  match ← operands arguments with
  | known :: name :: rest =>
    let state ← Run.state
    let arguments := if rest.isEmpty then state.arguments else rest
    let isOver := arguments.length + 1 < state.optionIndex
    let index := if isOver then 1 else state.optionIndex
    let (sought, changes) := seek known.toList arguments index (if isOver then none else state.optionOffset)
    sought.remark.forM fun text => Run.tell (text ++ "\n")
    if changes then
      match sought.value with
      | some value => Run.assign "OPTARG" value
      | none => Run.unset "OPTARG"
    Run.assign "OPTIND" (toString sought.index)
    let (name, _) := nameAndValue name
    Run.checkName name
    Run.assign name (String.singleton sought.letter)
    Run.modify fun state =>
      { state with optionIndex := sought.index, optionOffset := sought.offset }
    return if sought.isDone then 1 else 0
  | _ => Run.fail "Usage: getopts optstring var [arg...]"

/-! ## Aliases -/

/-- An alias as an assignment. -/
def aliasLine (entry : String × String) : String :=
  entry.1 ++ "=" ++ Table.singleQuoted entry.2 ++ "\n"

/-- Gives names to texts, or prints the texts. -/
def aliasNames : Action := fun arguments => do
  let aliases := (← Run.state).aliases
  if arguments.isEmpty then
    let sorted := aliases.mergeSort fun a b => Table.group a.1 ≤ Table.group b.1
    return ← Run.print (String.join (sorted.map aliasLine))
  let mut status := 0
  for argument in arguments do
    let text := argument.toList
    let name := text.take 1 ++ (text.drop 1).takeWhile (· != '=')
    let found := (← Run.state).aliases.find? (·.1 == String.ofList name)
    match text.drop name.length with
    | _ :: value =>
      let entry := (String.ofList name, String.ofList value)
      Run.modify fun state => { state with
        aliases := if found.isSome then
            state.aliases.map fun other => if other.1 = entry.1 then entry else other
          else state.aliases ++ [entry] }
    | [] =>
      match found with
      | some entry => let _ ← Run.print (aliasLine entry)
      | none =>
        Run.tell ("alias: " ++ argument ++ " not found\n")
        status := 1
  return status

/-- Forgets aliases. -/
def unalias : Action := fun arguments => do
  let (given, names) ← options "a" arguments
  if !given.isEmpty then
    Run.modify fun state => { state with aliases := [] }
    return 0
  let mut status := 0
  for name in names do
    if (← Run.state).aliases.any (·.1 == name) then
      Run.modify fun state => { state with aliases := state.aliases.filter (·.1 != name) }
    else
      Run.tell ("unalias: " ++ name ++ " not found\n")
      status := 1
  return status

/-! ## Input -/

/-- What was read of a line. -/
structure Input where
  /-- The parts of the line, the last one first. -/
  chunks : List Chunk := []
  /-- The characters of the last part, the last one first. -/
  cells : List Cell := []

namespace Input

/-- Ends a part that may be split. -/
def flush (input : Input) : Input := ⟨⟨input.cells.reverse, .fields⟩ :: input.chunks, []⟩

/-- Reads characters. Gives whether the line goes on with the next one. -/
def add (isRaw : Bool) : List Char → Input → Input × Bool
  | [], input => (input, false)
  | ['\n'], input => (input, false)
  | '\\' :: rest, input =>
    if isRaw then add isRaw rest { input with cells := .char '\\' false :: input.cells }
    else
      match rest with
      | ['\n'] => (input.flush, true)
      | c :: rest =>
        let input := input.flush
        add isRaw rest { input with chunks := ⟨[.char c true], .never⟩ :: input.chunks }
      | [] => (input, false)
  | c :: rest, input =>
    if c = '\x00' then add isRaw rest input
    else add isRaw rest { input with cells := .char c false :: input.cells }

end Input

/-- Reads a line with all those that it goes on with. Gives the status, too. The first argument bounds
the number of lines. -/
def readLines (isRaw : Bool) : Nat → Input → Run (Nat × Input)
  | 0, input => return (0, input)
  | steps + 1, input => do
    Run.act (Act.wait (fun process machine =>
      machine.isCalled process || machine.canReadLine process 0) none)
    let isReady ← Run.act (Act.look fun process machine => machine.canReadLine process 0)
    if !isReady then return (1, input)
    match ← Run.act (Act.update fun process machine => machine.takeLine process 0) with
    | .error _ => return (1, input)
    | .ok line =>
      let isWhole := line.getLast? = some '\n'
      let (input, goesOn) := Input.add isRaw line input
      if goesOn then readLines isRaw steps input else return (if isWhole then 0 else 1, input)

/-- Gives variables the fields of a line; those that are left get nothing. -/
def assignFields : List String → List String → Run Unit
  | [], _ => return ()
  | argument :: names, fields => do
    let (name, _) := nameAndValue argument
    Run.checkName name
    Run.assign name (fields.head?.getD "")
    assignFields names fields.tail

/-- Reads a line into variables. -/
def read : Action := fun arguments => do
  let (given, names) ← options "p:r" arguments
  if names.isEmpty then Run.fail "arg count"
  let isRaw := given.any (·.1 == 'r')
  let (status, input) ← readLines isRaw Run.childLimit {}
  let chunks := input.flush.chunks.reverse
  let fields := Chunk.split (← Run.state).separators (some names.length) chunks
  assignFields names (fields.map textOfCells)
  return status

end Runbook.Host.Shell.Builtin
