import Runbook.Host.Program

/-!
# Starting programs

What a file starts. It is a program, or a script whose first line names the program that reads it, with
one more argument at most. What is given to a program is bounded.
-/

namespace Runbook.Host

namespace Starting

/-- A text of an argument is shorter than this. -/
def textLimit : Nat := 131072

/-- All texts together with their places take no more than this. -/
def totalLimit : Nat := 2097152

/-- What a text takes. -/
def sizeOf (text : String) : Nat := text.length + 9

/-- The texts are more than a program can be given. -/
def isTooLong (path : String) (job : Job) : Bool :=
  let texts := job.arguments ++ job.environment.map fun pair => pair.1 ++ "=" ++ pair.2
  texts.any (fun text => textLimit ≤ text.length) ||
    totalLimit < (texts.map sizeOf).foldl (· + ·) path.length

/-- The number of octets of a script that are looked at. -/
def firstLineLimit : Nat := 256

/-- A script may be read by a program that is a script, so often. -/
def scriptLimit : Nat := 5

/-- A blank in the first line of a script. -/
def isBlank (c : Char) : Bool := c == ' ' || c == '\t'

/-- A text without the blanks at its end. -/
def withoutLastBlanks (text : List Char) : List Char := (text.reverse.dropWhile isBlank).reverse

/-- The program that reads a script, and the argument that it is given. -/
def reader? (script : String) : Option (String × List String) :=
  match script.toList with
  | '#' :: '!' :: rest =>
    let line := withoutLastBlanks ((rest.take (firstLineLimit - 3)).takeWhile (· != '\n'))
    let line := line.dropWhile isBlank
    let name := line.takeWhile (!isBlank ·)
    let argument := (line.dropWhile (!isBlank ·)).dropWhile isBlank
    if name.isEmpty then none
    else some (String.ofList name, if argument.isEmpty then [] else [String.ofList argument])
  | _ => none

/-- The program that a file starts, and its arguments. The first argument bounds the number of scripts. -/
def follow (files : Files) (directory : Location) :
    Nat → String → List String → Except Refusal (String × List String)
  | 0, _, _ => .error .manyLinks
  | scripts + 1, path, arguments => do
    let (_, node) ← files.status directory path
    if !node.isRegular || !node.isExecutable then throw .denied
    match node.content with
    | .program name => return (name, arguments)
    | content =>
      match reader? (match content with
        | .file octets => octets
        | _ => "") with
      | none => throw .noFormat
      | some (name, argument) =>
        follow files directory scripts name (name :: argument ++ path :: arguments.tail)

/-- The program that a path starts, and what it is given. -/
def find (files : Files) (directory : Location) (path : String) (job : Job) :
    Except Refusal (String × Job) := do
  if isTooLong path job then throw .longArguments
  let (name, arguments) ← follow files directory (scriptLimit + 1) path job.arguments
  return (name, { job with arguments })

end Starting

namespace Act

/-- The time that it takes to start a program, in nanoseconds. -/
def startTime : Nat := 500000

/-- The process is another program from now on. -/
def become (program : Act Nat) : Act Nat := do
  change fun process =>
    { process with held := [], expected := [], pending := [], time := process.time + startTime }
  program

end Act

end Runbook.Host
