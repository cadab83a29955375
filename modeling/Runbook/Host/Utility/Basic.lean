import Runbook.Host.Utility.Escape
import Runbook.Host.Utility.Options
import Runbook.Host.Utility.Real

/-!
# Small utilities

Utilities that print their arguments, the variables or the directory, and one that waits. Each gives
its exit status.
-/

namespace Runbook.Host.Utility

/-! ## Arguments -/

/-- The sequence after a backslash: also hexadecimal digits for an octet. -/
def echoSequence (text : List Char) : Option (List Char × List Char) :=
  match text with
  | 'x' :: rest =>
    (Numeral.inBase 16 (rest.take 2)).map fun found =>
      ([Escape.octet found.1], found.2 ++ rest.drop 2)
  | text => Escape.withZero? text

/-- The letters of the options at the start of arguments, and the arguments after them. -/
def echoOptions : List String → List Char × List String
  | [] => ([], [])
  | argument :: rest =>
    match argument.toList with
    | '-' :: c :: letters =>
      if (c :: letters).all fun c => c == 'e' || c == 'E' || c == 'n' then
        let (more, operands) := echoOptions rest
        (c :: letters ++ more, operands)
      else ([], argument :: rest)
    | _ => ([], argument :: rest)

/-- Prints its arguments. -/
def echo (job : Job) : Act Nat := do
  let isPlain := (job.valueOf? "POSIXLY_CORRECT").isSome
  let (letters, operands) := if isPlain && job.operands.head? != some "-n" then ([], job.operands)
    else echoOptions job.operands
  let last := letters.reverse.find? fun c => c == 'e' || c == 'E'
  let text := " ".intercalate operands
  let (text, ends) := if last = some 'e' || isPlain then Escape.expand echoSequence text.toList
    else (text.toList, false)
  let newline := if letters.contains 'n' || ends then [] else ['\n']
  print job (String.ofList (text ++ newline)) 0

/-! ## The process -/

/-- The values of variables, or all of them with their names. -/
def printenv : Job → Act Nat :=
  withOptions { Known.of "0" "" [("null", "0")] [] with inOrder := true } 2 fun job arguments => do
    let newline := if arguments.has ["0"] then "\x00" else "\n"
    match arguments.operands with
    | [] =>
      print job (String.join (job.environment.map fun pair =>
        pair.1 ++ "=" ++ pair.2 ++ newline)) 0
    | names =>
      let values (name : String) := if name.isEmpty then []
        else (job.environment.filter (·.1 == name)).map (·.2)
      let isMissing := names.any fun name => (values name).isEmpty
      printWith job (String.join ((names.flatMap values).map (· ++ newline)))
        (if isMissing then 1 else 0) 2

/-- The path is one without detours. -/
def isDirect (path : String) : Bool :=
  path.toList.head? = some '/' &&
    ((cutAt '/' path.toList).all fun name => name != ['.'] && name != ['.', '.'])

/-- Prints the current directory. -/
def pwd : Job → Act Nat :=
  withOptions (.of "LP" "" [("logical", "L"), ("physical", "P")] []) 1 fun job arguments => do
    if !arguments.operands.isEmpty then warn job "ignoring non-option arguments"
    let directory ← Act.directory
    let files ← Act.files
    let last := (arguments.last? ["L", "P"]).map (·.name)
    let wantsLogical := last = some "L" ||
      (last.isNone && (job.valueOf? "POSIXLY_CORRECT").isSome)
    let logical := (job.valueOf? "PWD").filter fun path => wantsLogical && isDirect path &&
      ((files.find [] path true).map (·.1)).toOption = some directory
    print job (logical.getD directory.toPath ++ "\n") 0

/-! ## Time -/

/-- The units of a length of time, in seconds. -/
def unitSeconds? : List Char → Option Nat
  | [] | ['s'] => some 1
  | ['m'] => some 60
  | ['h'] => some 3600
  | ['d'] => some 86400
  | _ => none

/-- A length of time in nanoseconds; none of them if it is without end. -/
def interval? (text : String) : Option (Option Nat) := do
  let (value, _, rest) ← Real.read .double text.toList
  let unit ← unitSeconds? rest
  match value with
  | .nan _ => none
  | .infinite negative => if negative then none else some none
  | .finite negative mantissa exponent =>
    if negative && mantissa != 0 then none
    else
      let (p, q) := Number.Binary64.power 2 exponent
      some (some ((mantissa * p * 1000000000 * unit + q - 1) / q))

/-- Does nothing for a while. -/
def sleep : Job → Act Nat := withOptions (.of "" "" [] []) 1 fun job arguments => do
  if arguments.operands.isEmpty then return ← misuse job "missing operand" 1
  match arguments.operands.filter fun text => (interval? text).isNone with
  | [] =>
    let intervals := arguments.operands.filterMap interval?
    if intervals.any Option.isNone then Act.sleepForever
    else Act.sleep ((intervals.filterMap id).foldl (· + ·) 0)
    return 0
  | faulty =>
    faulty.forM fun text => warn job ("invalid time interval " ++ Quotation.marked job.isWide text)
    referToHelp job 1

end Runbook.Host.Utility
