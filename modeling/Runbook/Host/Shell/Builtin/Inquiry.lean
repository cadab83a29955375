import Runbook.Host.Shell.Builtin.Variable

/-!
# Commands of the shell: what names stand for

The commands that tell what a name stands for when it is used as a command, and the one that remembers
where programs are.
-/

namespace Runbook.Host.Shell.Builtin

/-- What a name stands for. -/
inductive Meaning where
  | keyword
  | alias (text : String)
  | function
  | native (isSpecial : Bool)
  /-- A program, and whether its place is remembered. -/
  | program (path : String) (isRemembered : Bool)
  | nothing

/-- Finds what a name stands for; programs are looked for in given directories, or in the usual ones. -/
def meaningOf (path : Option String) (name : String) : Run Meaning := do
  let state ← Run.state
  if (Keyword.ofText? name.toList).isSome then return .keyword
  if let some found := state.aliases.find? (·.1 == name) then return .alias found.2
  match Lookup.known state true name with
  | some (.function _) => return .function
  | some (.native native) => return .native native.isSpecial
  | _ =>
    if name.toList.contains '/' then
      let found ← Run.act (Act.status name)
      return if found.isOk then .program name false else .nothing
    let directories := path.getD state.path
    let isRemembered := path.isNone && state.places.any (·.1 == name)
    match ← Lookup.program path name with
    | .program (some index) =>
      return .program (Lookup.pathAt directories index name) isRemembered
    | _ => return .nothing

/-- Tells what a name stands for, by a sentence or so that it can be used. -/
def describe (path : Option String) (isSentence : Bool) (name : String) : Run Nat := do
  let meaning ← meaningOf path name
  let inSentence := match meaning with
    | .keyword => " is a shell keyword"
    | .alias text => " is an alias for " ++ text
    | .function => " is a shell function"
    | .native true => " is a special shell builtin"
    | .native false => " is a shell builtin"
    | .program path true => " is a tracked alias for " ++ path
    | .program path false => " is " ++ path
    | .nothing => ": not found"
  let asItIs := match meaning with
    | .alias text => "alias " ++ name ++ "=" ++ Table.singleQuoted text ++ "\n"
    | .program path _ => path ++ "\n"
    | .nothing => ""
    | _ => name ++ "\n"
  let failed ← Run.print (if isSentence then name ++ inSentence ++ "\n" else asItIs)
  return match meaning with
    | .nothing => 127
    | _ => failed

/-- Tells what names stand for. -/
def type : Action := fun arguments => do
  let statuses ← arguments.mapM (describe none true)
  return statuses.foldl (· ||| ·) 0

/-- Tells what one name stands for, if that is asked for by an option. -/
def command : Action := fun arguments => do
  let (given, operands) ← options "pvV" arguments
  let letters := given.map (·.1)
  match operands.head? with
  | some name =>
    if letters.contains 'v' || letters.contains 'V' then
      let path := if letters.contains 'p' then some Lookup.defaultPath else none
      describe path (letters.contains 'V') name
    else return 0
  | none => return 0

/-- The group of a name among those of programs. -/
def programGroup (name : String) : Nat :=
  let numbers := name.toList.map Char.toNat
  (16 * numbers.headD 0 + numbers.foldl (· + ·) 0) % 32768 % 31

/-- Remembers where programs are, forgets it, or lists it. -/
def hash : Action := fun arguments => do
  let (given, names) ← options "r" arguments
  if !given.isEmpty then
    Run.modify fun state => { state with places := [] }
    return 0
  if names.isEmpty then
    let state ← Run.state
    let sorted := state.places.mergeSort fun a b => programGroup a.1 ≤ programGroup b.1
    return ← Run.print (String.join (sorted.map fun place =>
      Lookup.pathAt state.path place.2.index place.1 ++ (if place.2.isStale then "*" else "") ++ "\n"))
  let mut status := 0
  for name in names do
    Run.modify fun state => { state with places := state.places.filter (·.1 != name) }
    match ← Lookup.find true none name with
    | .nothing refusal =>
      Lookup.warn name refusal
      status := 1
    | _ => pure ()
  return status

end Runbook.Host.Shell.Builtin
