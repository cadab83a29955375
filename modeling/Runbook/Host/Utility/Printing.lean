import Runbook.Host.Utility.Escape
import Runbook.Host.Utility.Format
import Runbook.Host.Utility.Options

/-!
# Formatted printing

The utility that prints arguments by a format. The format is used again as long as it takes arguments
and some are left; an argument that is missing is empty. What is wrong with an argument is told at once,
and what is wrong with the format ends the program.
-/

namespace Runbook.Host.Utility

/-- What was printed so far. -/
structure Printed where
  /-- The text, its last character first. -/
  text : List Char
  arguments : List String
  /-- What was wrong, the last fault first. -/
  faults : List String
  failed : Bool

namespace Printed

/-- A step: it goes on with the first of the two, and ends with the other one. -/
abbrev Step := Except Printed Printed

/-- Adds characters. -/
def add (printed : Printed) (text : List Char) : Printed :=
  { printed with text := text.reverse ++ printed.text }

/-- Takes the next argument, which is empty if there is none. -/
def next (printed : Printed) : String × Printed :=
  match printed.arguments with
  | [] => ("", printed)
  | argument :: rest => (argument, { printed with arguments := rest })

/-- Tells of a fault. -/
def blame (printed : Printed) (fault : String) : Printed :=
  { printed with faults := fault :: printed.faults, failed := true }

/-- Tells of something that is no fault. -/
def remark (printed : Printed) (text : String) : Printed :=
  { printed with faults := text :: printed.faults }

/-- Tells of a fault and ends. -/
def fail {α : Type} (printed : Printed) (fault : String) : Except Printed α :=
  .error (printed.blame fault)

/-! ## Numbers -/

/-- The number of the character after a quotation mark, and what comes after it. -/
def characterNumber? (wide : Bool) (argument : String) : Option (Nat × String) :=
  match argument.toList with
  | mark :: first :: rest =>
    if mark = '\'' ∨ mark = '"' then
      let (glyph, rest) := Glyph.next wide first rest
      some ((glyph.char.getD first).toNat, String.ofList rest)
    else none
  | _ => none

/-- The next argument as a number. `read` gives its value, whether it is out of range, and what is left
of the text. -/
def number {α : Type} (wide : Bool) (zero : α) (ofCharacter : Nat → α)
    (read : List Char → Option (α × Bool × List Char)) (printed : Printed) : α × Printed :=
  let (argument, printed) := printed.next
  match characterNumber? wide argument with
  | some (value, rest) =>
    (ofCharacter value, if rest.isEmpty then printed else printed.remark
      ("warning: " ++ rest ++ ": character(s) following character constant have been ignored"))
  | none =>
    if argument.isEmpty then (zero, printed)
    else
      let name := Quotation.marked wide argument
      match read argument.toList with
      | none => (zero, printed.blame (name ++ ": expected a numeric value"))
      | some (value, isOut, rest) =>
        if isOut then (value, printed.blame (name ++ ": " ++ IoError.numberText 34))
        else if rest.isEmpty then (value, printed)
        else (value, printed.blame (name ++ ": value not completely converted"))

/-- The next argument as a whole number with a sign. -/
def signed (wide : Bool) : Printed → Int × Printed :=
  number wide 0 (fun n => (n : Int)) fun text =>
    (Numeral.read (.anyBase true) text).map fun found =>
      let (value, isOut) := Numeral.signed found.1
      (value, isOut, found.2)

/-- The next argument as a whole number without a sign. -/
def unsigned (wide : Bool) : Printed → Nat × Printed :=
  number wide 0 id fun text =>
    (Numeral.read (.anyBase true) text).map fun found =>
      let (value, isOut) := Numeral.unsigned found.1
      (value, isOut, found.2)

/-- The next argument as a real number. -/
def real (wide : Bool) : Printed → Real × Printed :=
  number wide (.finite false 0 0) (fun n => (Real.ofFraction .extended false n 1).1)
    (Real.read .extended)

/-! ## Sequences -/

/-- The number of exactly so many hexadecimal digits, and the rest. -/
def hexadecimal? (count : Nat) (text : List Char) : Option (Nat × List Char) :=
  let digits := text.take count
  if digits.length = count ∧ digits.all fun c => (Numeral.digit? 16 c).isSome then
    some ((Numeral.digits 16 count 0 digits).1, text.drop count)
  else none

/-- The sequence after a backslash, and the rest of the text. -/
def sequence (wide zeroFirst : Bool) (text : List Char) (printed : Printed) :
    Except Printed (List Char × Printed) :=
  let universal (letter : Char) (count : Nat) (rest : List Char) :=
    match hexadecimal? count rest with
    | none => printed.fail "missing hexadecimal number in escape"
    | some (value, rest') =>
      if (value ≤ 0x9F && value != 0x24 && value != 0x40 && value != 0x60) ||
          (0xD800 ≤ value && value ≤ 0xDFFF) then
        printed.fail ("invalid universal character name \\" ++ String.singleton letter ++
          String.ofList ((rest.take count).map Char.toLower))
      else
        let escaped := '\\' :: letter :: (rest.take count).map Char.toLower
        let character := if wide && value < 0x110000 then (octets (String.singleton (Char.ofNat value))).toList
          else escaped
        .ok (rest', printed.add character)
  match text with
  | [] => .ok ([], printed.add ['\\'])
  | 'x' :: rest =>
    match Numeral.inBase 16 (rest.take 2) with
    | none => printed.fail "missing hexadecimal number in escape"
    | some (value, left) => .ok (left ++ rest.drop 2, printed.add [Escape.octet value])
  | '"' :: rest => .ok (rest, printed.add ['"'])
  | 'c' :: _ => .error { printed with failed := false }
  | 'u' :: rest => universal 'u' 4 rest
  | 'U' :: rest => universal 'U' 8 rest
  | c :: rest =>
    match if zeroFirst then Escape.withZero? text else Escape.plain? text with
    | some (found, rest) => .ok (rest, printed.add found)
    | none => .ok (rest, printed.add ['\\', c])

/-- A text with its sequences replaced. The first argument bounds the number of steps. -/
def expand (wide : Bool) : Nat → List Char → Printed → Step
  | 0, _, printed => .ok printed
  | _ + 1, [], printed => .ok printed
  | steps + 1, '\\' :: rest, printed => do
    let (rest, printed) ← sequence wide true rest printed
    expand wide steps rest printed
  | steps + 1, c :: rest, printed => expand wide steps rest (printed.add [c])

/-! ## Directives -/

/-- The conversions that remain after a flag. -/
def afterFlag (valid : List Char) (flag : Char) : List Char :=
  match flag with
  | '\'' | 'I' => valid.filter fun c => !"aAceEosxX".toList.contains c
  | '#' => valid.filter fun c => !"cdisu".toList.contains c
  | '0' => valid.filter fun c => !"cs".toList.contains c
  | _ => valid

/-- The largest width. -/
def widthLimit : Int := Nat.pow 2 31 - 1

/-- A number in a directive: a star, which takes an argument, or digits. -/
def bound (wide : Bool) (what : String) (text : List Char) (printed : Printed) :
    Except Printed (Int × List Char × Printed) :=
  match text with
  | '*' :: rest =>
    let argument := printed.arguments.head?.getD ""
    let (value, printed) := signed wide printed
    if widthLimit < value || (value < -widthLimit - 1 && what == "field width") then
      printed.fail ("invalid " ++ what ++ ": " ++ Quotation.marked wide argument)
    else .ok (Directive.limited value, rest, printed)
  | text =>
    let (value, rest) := Numeral.digits 10 text.length 0 text
    .ok (Directive.limited value, rest, printed)

/-- Carries out a directive; the text after its percent sign. Gives the rest of the format. -/
def directive (wide : Bool) (text : List Char) (printed : Printed) :
    Except Printed (List Char × Printed) := do
  match text with
  | '%' :: rest => return (rest, printed.add ['%'])
  | 'b' :: rest =>
    let (argument, printed) := printed.next
    return (rest, ← expand wide (argument.length + 1) argument.toList printed)
  | 'q' :: rest =>
    if printed.arguments.isEmpty then return (rest, printed)
    let (argument, printed) := printed.next
    return (rest, printed.add (Quotation.ifNeeded wide argument).toList)
  | _ =>
    let isFlag (c : Char) := "I'-+ #0".toList.contains c
    let flags := text.takeWhile isFlag
    let valid := flags.foldl afterFlag "aAcdeEfFgGiosuxX".toList
    let (width, rest, printed) ← bound wide "field width" (text.dropWhile isFlag) printed
    let (precision, valid, rest, printed) ← match rest with
      | '.' :: rest => do
        let (value, rest, printed) ← bound wide "precision" rest printed
        pure (if value < 0 then none else some value.toNat, valid.filter (· != 'c'), rest, printed)
      | rest => pure (none, valid, rest, printed)
    let rest := rest.dropWhile fun c => "lLhjtz".toList.contains c
    let conversion := rest.head?.getD '\x00'
    if !valid.contains conversion then
      let length := text.length - rest.length + (if rest.isEmpty then 0 else 1)
      printed.fail ("%" ++ String.ofList (text.take length) ++ ": invalid conversion specification")
    else
      let rest := rest.drop 1
      let directive : Directive := ⟨flags, width, precision, conversion⟩
      match conversion with
      | 's' =>
        let (argument, printed) := printed.next
        return (rest, printed.add (directive.text argument.toList))
      | 'c' =>
        let (argument, printed) := printed.next
        return (rest, printed.add (directive.character (argument.toList.head?.getD '\x00')))
      | 'd' | 'i' =>
        let (value, printed) := signed wide printed
        return (rest, printed.add (directive.signed value))
      | 'u' | 'o' | 'x' | 'X' =>
        let (value, printed) := unsigned wide printed
        return (rest, printed.add (directive.unsigned value))
      | _ =>
        let (value, printed) := real wide printed
        return (rest, printed.add (directive.real .extended value))

/-- Goes through a format once. The first argument bounds the number of steps. -/
def pass (wide : Bool) : Nat → List Char → Printed → Step
  | 0, _, printed => .ok printed
  | _ + 1, [], printed => .ok printed
  | steps + 1, '\\' :: rest, printed => do
    let (rest, printed) ← sequence wide false rest printed
    pass wide steps rest printed
  | steps + 1, '%' :: rest, printed => do
    let (rest, printed) ← directive wide rest printed
    pass wide steps rest printed
  | steps + 1, c :: rest, printed => pass wide steps rest (printed.add [c])

/-- Goes through a format until no argument is left or none is taken. -/
def passes (wide : Bool) (format : List Char) : Nat → Printed → Step
  | 0, printed => .ok printed
  | rounds + 1, printed => do
    let after ← pass wide (format.length + 1) format printed
    match after.arguments with
    | [] => return after
    | argument :: _ =>
      if after.arguments.length < printed.arguments.length then
        return ← passes wide format rounds after
      return after.remark
        ("warning: ignoring excess arguments, starting with " ++ Quotation.marked wide argument)

/-- What is printed of arguments by a format. -/
def ofFormat (wide : Bool) (format : String) (arguments : List String) : Printed :=
  match passes wide format.toList (arguments.length + 1) ⟨[], arguments, [], false⟩ with
  | .ok printed | .error printed => printed

end Printed

/-- Prints arguments by a format. -/
def printf (job : Job) : Act Nat := do
  let operands := if job.operands.head? = some "--" then job.operands.tail else job.operands
  match operands with
  | [] => misuse job "missing operand" 1
  | format :: arguments =>
    let printed := Printed.ofFormat job.isWide format arguments
    printed.faults.reverse.forM fun fault => warn job fault
    print job (String.ofList printed.text.reverse) (if printed.failed then 1 else 0)

end Runbook.Host.Utility
