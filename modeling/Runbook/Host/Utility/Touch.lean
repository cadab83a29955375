import Runbook.Host.Utility.Calendar
import Runbook.Host.Utility.Options

/-!
# Setting the times of files

A file that is not there is made, unless that is not wanted. The time is the present one, or one that is
given: as a stamp, as a date, or as that of another file. Of the two times of a file, that of its last
change is the one that is kept.
-/

namespace Runbook.Host.Utility

namespace Touch

/-- The options. -/
def known : Known := .of "acfhm" "drt" [("no-create", "c"), ("no-dereference", "h")]
  [("time", .required, "time"), ("date", .required, "d"), ("reference", .required, "r")]

/-- The words for a time of a file: that of its last use, or that of its last change. -/
def timeWords : List (List String) := [["atime", "access", "use"], ["mtime", "modify"]]

/-- What is asked for. -/
structure Wish where
  /-- The time, if it is not the present one. -/
  time : Option Int
  /-- The time of the last change is set. -/
  setsChange : Bool
  creates : Bool
  follows : Bool

/-- The times of a file that options ask for. -/
def timesOf (wide : Bool) : List Given → Except Fault (List String)
  | [] => .ok []
  | given :: rest => do
    let first ← match given.name, given.value with
      | "a", _ => pure ["atime"]
      | "m", _ => pure ["mtime"]
      | "time", some word =>
        match chooseWord wide "--time" timeWords word with
        | .ok time => pure [time]
        | .error text => throw { text, refers := true }
      | _, _ => pure []
    return first ++ (← timesOf wide rest)

/-- A time that a text means. -/
def dateOf (wide : Bool) (read : List Char → Option Int) (text : String) : Except Fault Int :=
  match read text.toList with
  | some time => .ok time
  | none => .error { text := "invalid date format " ++ Quotation.marked wide text }

/-- The time of a file. -/
def timeLike (wide : Bool) (files : Files) (directory : Location) (follows : Bool) (path : String) :
    Except Fault Int :=
  match files.find directory path follows with
  | .ok (_, number) => .ok (files.node number).changed
  | .error refusal => .error
      { text := "failed to get attributes of " ++ Quotation.always wide path ++ ": " ++ refusal.text }

/-- What is asked for at a time, with files seen from a directory. -/
def Wish.ofArguments (wide : Bool) (now : Int) (files : Files) (directory : Location)
    (arguments : Arguments) : Except Fault Wish := do
  let stamps ← (arguments.options.filter (·.name == "t")).mapM fun given =>
    dateOf wide (Calendar.ofStamp? now) (given.value.getD "")
  let times ← timesOf wide arguments.options
  let follows := !arguments.has ["h"]
  let date := arguments.value? ["d"]
  let model := arguments.value? ["r"]
  if !stamps.isEmpty && (date.isSome || model.isSome) then
    throw { text := "cannot specify times from more than one source", refers := true }
  let from' ← model.mapM (timeLike wide files directory follows)
  let dated ← date.mapM (dateOf wide (Calendar.read? (from'.getD now)))
  return {
    time := stamps.getLast?.or (dated.or from')
    setsChange := times.isEmpty || times.contains "mtime"
    creates := follows && !arguments.has ["c"]
    follows }

/-- Sets the time of the node that is found. -/
def stamp (wish : Wish) (found : Except Refusal Nat) (machine : Machine) :
    Except Refusal Unit × Machine :=
  match found with
  | .error refusal => (.error refusal, machine)
  | .ok number =>
    if wish.setsChange then
      let changed := wish.time.getD machine.now
      (.ok (), { machine with files := machine.files.modify number ({ · with changed }) })
    else (.ok (), machine)

/-- Sets the time of what a path leads to. -/
def stampPath (wish : Wish) (path : String) : Act (Except Refusal Unit) :=
  Act.update fun number machine =>
    let found := machine.files.find (machine.directory number) path wish.follows
    stamp wish (found.map (·.2)) machine

/-- Sets the time of what the standard output leads to. -/
def stampOutput (wish : Wish) : Act (Except Refusal Unit) :=
  Act.update fun number machine =>
    match machine.opened? number 1 with
    | none => (.error .badDescriptor, machine)
    | some (_, opened) =>
      match opened.target with
      | .node node => stamp wish (.ok node) machine
      | .pipe _ => (.ok (), machine)

/-- Sets the time of a file, and tells why it could not be done. -/
def file (job : Job) (wish : Wish) (isQuiet : Bool) (path : String) : Act Bool := do
  let opened ← if wish.creates && path != "-" then
      Act.openAt Act.fileDescriptor path { writes := true, creates := true }
    else pure (.ok ())
  Act.close Act.fileDescriptor
  let name := Quotation.always job.isWide path
  let stamped ← if path = "-" then stampOutput wish else stampPath wish path
  match stamped, opened with
  | .ok (), _ => return true
  | .error refusal, .error first =>
    warn job (if first = .isDirectory then "setting times of " ++ name ++ ": " ++ refusal.text
      else "cannot touch " ++ name ++ ": " ++ first.text)
    return false
  | .error refusal, .ok () =>
    if isQuiet && refusal = (if path = "-" then .badDescriptor else .noEntry) then return true
    warn job ("setting times of " ++ name ++ ": " ++ refusal.text)
    return false

end Touch

open Touch in
/-- Sets the times of files, and makes those that are not there. -/
def touch : Job → Act Nat := withOptions known 1 fun job arguments => do
  let now ← Act.look fun _ machine => machine.now
  match Wish.ofArguments job.isWide now (← Act.files) (← Act.directory) arguments with
  | .error fault => complain job fault
  | .ok wish =>
    if arguments.operands.isEmpty then return ← misuse job "missing file operand" 1
    let mut status := 0
    for path in arguments.operands do
      if !(← file job wish (arguments.has ["c"]) path) then status := 1
    return status

end Runbook.Host.Utility
