import Runbook.Host.Utility.Options

/-!
# Concatenating files

Files are printed one after the other. On the way lines can be numbered, blank lines left out, and what
cannot be seen be shown; where a line or a run of blank lines goes on in the next file, it is one.
-/

namespace Runbook.Host.Utility

/-- What is shown of files besides their octets. -/
structure Showing where
  numbers : Bool
  /-- Blank lines have no numbers. -/
  skipsBlank : Bool
  squeezes : Bool
  ends : Bool
  tabs : Bool
  others : Bool

namespace Showing

/-- Files are shown as they are. -/
def isPlain (showing : Showing) : Bool :=
  !showing.numbers && !showing.squeezes && !showing.ends && !showing.tabs && !showing.others

/-- What options ask for. -/
def ofArguments (arguments : Arguments) : Showing where
  numbers := arguments.has ["n", "b"]
  skipsBlank := arguments.has ["b"]
  squeezes := arguments.has ["s"]
  ends := arguments.has ["E", "A", "e"]
  tabs := arguments.has ["T", "A", "t"]
  others := arguments.has ["v", "A", "e", "t"]

end Showing

/-- Where files have come to. -/
structure Reached where
  /-- The number of the last line. -/
  line : Nat
  /-- The number of ends of lines just before, up to two; none within a line. -/
  blanks : Option Nat

/-- A character that can be seen, in place of one that cannot. -/
def visible (c : Char) : List Char :=
  let low (n : Nat) : List Char :=
    if n < 32 then ['^', Char.ofNat (n + 64)] else if n = 127 then ['^', '?'] else [Char.ofNat n]
  if c.toNat < 128 then low c.toNat else 'M' :: '-' :: low (c.toNat - 128)

/-- A character of a line as it is shown; `next` is the one after it. -/
def shown (showing : Showing) (c : Char) (next : Option Char) : List Char :=
  if c = '\t' then (if showing.tabs then ['^', 'I'] else [c])
  else if showing.others then visible c
  else if showing.ends && c = '\r' && next = some '\n' then ['^', 'M']
  else [c]

/-- A number before a line. -/
def lineNumber (n : Nat) : List Char :=
  let digits := Nat.toDigits 10 n
  List.replicate (6 - digits.length) ' ' ++ digits ++ ['\t']

/-- Octets as they are shown, after what was shown before; the result starts with its last character. -/
def showFrom (showing : Showing) : List Char → Reached → List Char → List Char × Reached
  | [], reached, done => (done, reached)
  | '\n' :: rest, reached, done =>
    let blanks := min 2 (reached.blanks.elim 0 (· + 1))
    if blanks = 2 && showing.squeezes then showFrom showing rest { reached with blanks := some 2 } done
    else
      let isNumbered := blanks ≥ 1 && showing.numbers && !showing.skipsBlank
      let line := if isNumbered then reached.line + 1 else reached.line
      let number := if isNumbered then lineNumber line else []
      let text := number ++ (if showing.ends then ['$', '\n'] else ['\n'])
      showFrom showing rest ⟨line, some blanks⟩ (text.reverse ++ done)
  | c :: rest, reached, done =>
    let isNumbered := reached.blanks.isSome && showing.numbers
    let line := if isNumbered then reached.line + 1 else reached.line
    let number := if isNumbered then lineNumber line else []
    let text := number ++ shown showing c rest.head?
    showFrom showing rest ⟨line, none⟩ (text.reverse ++ done)

/-- Copying the input under a number would only feed on what is printed. -/
def feedsOnItself (descriptor number : Nat) (machine : Machine) : Bool :=
  match machine.opened? number descriptor, machine.opened? number 1 with
  | some (_, input), some (_, output) =>
    match input.target with
    | .node _ => input.target == output.target && (output.appends || input.offset < output.offset)
    | .pipe _ => false
  | _, _ => false

/-- Copies the input under a number. Gives whether all went well, and where it has come to. The second
argument bounds the number of pieces. -/
def copyInput (job : Job) (showing : Showing) (name : String) (descriptor : Nat) :
    Nat → Reached → Act (Bool × Reached)
  | 0, reached => return (true, reached)
  | steps + 1, reached => do
    match ← Act.read descriptor with
    | .error refusal =>
      warn job (Quotation.withColon job.isWide name ++ ": " ++ refusal.text)
      return (false, reached)
    | .ok octets =>
      if octets.isEmpty then return (true, reached)
      let (text, reached) := if showing.isPlain then (octets, reached)
        else
          let (text, reached) := showFrom showing octets.toList reached []
          (String.ofList text.reverse, reached)
      match ← Act.tryWrite 1 text with
      | .ok () => copyInput job showing name descriptor steps reached
      | .error refusal =>
        warn job ("write error: " ++ refusal.text)
        Act.finish (.exit 1)

/-- Prints files one after the other. -/
def cat : Job → Act Nat :=
  withOptions (.of "AbeEnstTuv" "" [("number-nonblank", "b"), ("number", "n"), ("squeeze-blank", "s"),
      ("show-nonprinting", "v"), ("show-ends", "E"), ("show-tabs", "T"), ("show-all", "A")] []) 1
    fun job arguments => do
  let isOpen ← Act.look fun number machine => (machine.opened? number 1).isSome
  if !isOpen then
    warn job ("standard output: " ++ Refusal.badDescriptor.text)
    return 1
  let showing := Showing.ofArguments arguments
  let paths := if arguments.operands.isEmpty then ["-"] else arguments.operands
  let mut status := 0
  let mut reached : Reached := ⟨0, some 0⟩
  for path in paths do
    let descriptor := if path = "-" then 0 else Act.fileDescriptor
    let opened ← if path = "-" then pure (.ok ()) else Act.openAt descriptor path .reading
    match opened with
    | .error refusal =>
      warn job (Quotation.withColon job.isWide path ++ ": " ++ refusal.text)
      status := 1
    | .ok () =>
      if ← Act.look (feedsOnItself descriptor) then
        warn job (Quotation.withColon job.isWide path ++ ": input file is output file")
        status := 1
      else
        let (isFine, after) ← copyInput job showing path descriptor Act.pieceLimit reached
        reached := after
        if !isFine then status := 1
  let isInputOpen ← Act.look fun number machine => (machine.opened? number 0).isSome
  if paths.contains "-" && !isInputOpen then
    warn job ("closing standard input: " ++ Refusal.badDescriptor.text)
    status := 1
  return status

end Runbook.Host.Utility
