import Runbook.Host.Program

/-!
# Schedules

Which process goes on when. Of all processes that can do something, the next step is that of the one
that can do it first; of two that can do it at the same time, that of the older one. So the steps of all
processes are carried out in the order of time, and a process that waits costs nothing.

`World.run` goes on until something has come about, until a time is reached, or until nothing can happen
any more, as far as a number of steps goes.
-/

namespace Runbook.Host

/-- A machine, and what its processes do. -/
structure World where
  machine : Machine
  programs : List (Nat × Program)

/-- How a run came to its end. -/
inductive Halt where
  /-- What was waited for has come about. -/
  | done
  /-- The time is reached. -/
  | late
  /-- Nothing can happen any more. -/
  | never
  /-- All steps that were looked at were made. -/
  | spent
  deriving DecidableEq, Repr

namespace World

/-- The time that a process needs to make a child, and the child to begin, in nanoseconds. -/
def forkTime : Nat := 100000

/-- When a process can go on. -/
def readyAt? (machine : Machine) (process : Process) : Program → Option Nat
  | .wait ready deadline _ =>
    if ready machine then some (max process.time machine.clock)
    else deadline.map (max process.time ·)
  | _ => some process.time

/-- The process that can go on first, and when. -/
def first? (machine : Machine) : List (Nat × Program) → Option (Nat × Nat × Program)
  | [] => none
  | (number, program) :: rest =>
    let later := first? machine rest
    match (machine.process? number).bind fun process => readyAt? machine process program with
    | none => later
    | some time =>
      match later with
      | some (otherTime, other) =>
        if otherTime < time then some (otherTime, other) else some (time, number, program)
      | none => some (time, number, program)

/-- Sets what a process does from now on. -/
def setProgram (programs : List (Nat × Program)) (number : Nat) (program : Program) :
    List (Nat × Program) :=
  programs.map fun entry => if entry.1 = number then (number, program) else entry

/-- Without the programs of processes that came to their end. -/
def alive (world : World) : World :=
  { world with programs := world.programs.filter fun entry => world.machine.isAlive entry.1 }

/-- The step of a process at a time. -/
def stepOf (world : World) (time number : Nat) (program : Program) : World :=
  let machine := { world.machine with clock := max world.machine.clock time }
  let machine := machine.modifyProcess number fun process => { process with time := time }
  match program with
  | .finish ending =>
    { machine := machine.finish number ending
      programs := world.programs.filter (·.1 != number) }
  | .step run =>
    let programs := world.programs
    let (next, machine) := run machine
    if machine.isAlive number then { machine, programs := setProgram programs number next }
    else ({ machine, programs : World }).alive
  | .wait _ _ next => { machine, programs := setProgram world.programs number next }
  | .fork child next =>
    let childNumber := machine.next
    let machine := (machine.fork number).modifyProcess number fun process =>
      { process with time := time + forkTime / 2 }
    let machine := machine.modifyProcess childNumber fun process =>
      { process with time := time + forkTime }
    { machine
      programs := setProgram world.programs number (next childNumber) ++
        [(childNumber, child childNumber)] }

/-- It is at least some time. -/
def atLeast (world : World) (time : Nat) : World :=
  { world with machine := { world.machine with clock := max world.machine.clock time } }

/-- The process that can go on first, and when, if that is not later than a limit. -/
def next? (world : World) (limit : Option Nat) : Option (Nat × Nat × Program) :=
  (first? world.machine world.programs).filter fun entry => limit.all (entry.1 ≤ ·)

/-- Goes on until a property holds, until a time, or until nothing can happen. The third argument
bounds the number of steps. -/
def run (until' : Machine → Bool) (limit : Option Nat) (steps : Nat) (world : World) : Halt × World :=
  if until' world.machine then (.done, world)
  else
    match world.next? limit with
    | none => (if limit.isSome then .late else .never, world)
    | some (time, number, program) =>
      match steps with
      | 0 => (.spent, world)
      | steps + 1 => run until' limit steps (world.stepOf time number program)

end World

end Runbook.Host
