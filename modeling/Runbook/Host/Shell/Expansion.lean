import Runbook.Host.Shell.Arithmetic
import Runbook.Host.Shell.Paths
import Runbook.Host.Shell.Run

/-!
# Expansion

What words become when a command is carried out: tildes, parameters, expressions and commands in them
are replaced, what was not quoted is split into fields, and fields that are patterns become the paths
that they fit.

`Expansion.fields` gives the fields of a word, and `Expansion.text` its text without splitting. The
functions are given a function that carries out a command and gives what it prints.
-/

namespace Runbook.Host.Shell.Expansion

/-- How a word is expanded. -/
structure Manner where
  /-- Into fields. -/
  splits : Bool := false
  /-- A tilde at the start is the path of a home. -/
  tilde : Bool := false
  /-- The word is an assignment: tildes may also come later. -/
  isAssignment : Bool := false
  /-- The equals sign of the assignment was read. -/
  isAfterName : Bool := false
  isQuoted : Bool := false
  /-- The word stands in place of the value of a parameter. -/
  isInner : Bool := false

/-- A function that expands a part of a word. -/
abbrev Again := Manner → Word → Run (List Chunk)

/-- A function that carries out a command and gives what it prints. -/
abbrev Output := Command → Run String

/-! ## Tildes -/

/-- The homes of users. -/
def homes : List (String × String) := [
  ("root", "/root"), ("daemon", "/usr/sbin"), ("bin", "/bin"), ("sys", "/dev"), ("sync", "/bin"),
  ("games", "/usr/games"), ("man", "/var/cache/man"), ("lp", "/var/spool/lpd"), ("mail", "/var/mail"),
  ("news", "/var/spool/news"), ("uucp", "/var/spool/uucp"), ("proxy", "/bin"),
  ("www-data", "/var/www"), ("backup", "/var/backups"), ("list", "/var/list"), ("irc", "/run/ircd"),
  ("_apt", "/nonexistent"), ("nobody", "/nonexistent")]

/-- The name after a tilde, and what comes after the name; none if a part of it is quoted. The name so
far is reversed. -/
def userName? (isAssignment : Bool) (name : List Char) : Word → Option (List Char × Word)
  | [] => some (name.reverse, [])
  | .char c :: rest =>
    if c = '/' || (c = ':' && isAssignment) then some (name.reverse, .char c :: rest)
    else userName? isAssignment (c :: name) rest
  | _ :: _ => none

/-- The home that a tilde at the start of a word stands for, and the rest of the word. -/
def home? (isAssignment : Bool) (word : Word) : Run (Option (String × Word)) := do
  match word with
  | .char '~' :: rest =>
    match userName? isAssignment [] rest with
    | none => return none
    | some ([], rest) => return ((← Run.state).valueOf? "HOME").map (·, rest)
    | some (name, rest) =>
      return (homes.find? (·.1 == String.ofList name)).map fun home => (home.2, rest)
  | _ => return none

/-! ## Parameters -/

/-- The values of a parameter: more than one if they are to be kept apart. -/
structure Value where
  texts : List (List Char)
  /-- What stands between them. -/
  between : List Char

namespace Value

/-- A single text. -/
def ofText (text : String) : Value := ⟨[text.toList], []⟩

/-- The value as one text. -/
def text (value : Value) : List Char := value.between.intercalate value.texts

end Value

/-- What stands between the positional parameters in their list. -/
def between (state : State) (manner : Manner) (isAt : Bool) : List Char :=
  if manner.splits && isAt && manner.isQuoted then ['\x00']
  else
    match state.table.valueOf? "IFS" with
    | none => [' ']
    | some separators =>
      if manner.splits && !manner.isQuoted then ['\x00'] else separators.toList.take 1

/-- The value of a parameter. -/
def value? (state : State) (manner : Manner) (name : String) : Option Value :=
  match name with
  | "$" => some (.ofText (toString state.root))
  | "?" => some (.ofText (toString state.status))
  | "#" => some (.ofText (toString state.arguments.length))
  | "!" => state.lastChild.map fun child => .ofText (toString child)
  | "-" => some (.ofText state.switchText)
  | "@" => some ⟨state.arguments.map (·.toList), between state manner true⟩
  | "*" => some ⟨state.arguments.map (·.toList), between state manner false⟩
  | name =>
    if name.toList.head?.any Char.isDigit then
      match name.toNat? with
      | some 0 => some (.ofText state.name)
      | some n => state.arguments[n - 1]?.map .ofText
      | none => none
    else (state.valueOf? name).map .ofText

/-- A text that takes the place of a part of a word. -/
def inserted (manner : Manner) (text : List Char) : Chunk :=
  ⟨text.map (.char · manner.isQuoted), if manner.isQuoted then .never else .fields⟩

/-- The value of a parameter that takes its place. -/
def insertedValue (manner : Manner) (name : String) (value : Value) (text : List Char) : Chunk :=
  let chunk := inserted manner text
  if manner.isQuoted && name = "@" && !value.texts.isEmpty then
    { chunk with splitting := .parameters }
  else chunk

/-- Fails because a parameter has no value. -/
def demand {α : Type} (name : String) (text : Option String) (orEmpty : Bool) : Run α :=
  Run.fail (name ++ ": " ++
    text.getD (if orEmpty then "parameter not set or null" else "parameter not set"))

/-- Gives a parameter a value, if it is a variable. -/
def assign (name value : String) : Run Unit := do
  Run.checkName name
  Run.assign name value

/-- The value of a parameter, which may be demanded. -/
def existing (manner : Manner) (name : String) : Run (Option Value) := do
  let state ← Run.state
  let found := value? state manner name
  if found.isNone && state.has 'u' then demand name none false
  return found

/-- What a parameter becomes. -/
def parameter (again : Again) (manner : Manner) (name : String) (operation : Operation) (word : Word) :
    Run (List Chunk) := do
  let found := value? (← Run.state) manner name
  /- A value that counts. -/
  let counts (orEmpty : Bool) : Option Value :=
    found.filter fun value => !orEmpty || !value.text.isEmpty
  let itself (value : Value) : List Chunk := [insertedValue manner name value value.text]
  let inner : Run (List Chunk) := again { manner with tilde := true, isInner := true } word
  let cut (longest : Bool) (from' : Bool → List Glob → List Char → List Char) : Run (List Chunk) := do
    match ← existing manner name with
    | none => return []
    | some value =>
      let pattern := Pattern.ofCells true (Chunk.cellsOf (← again { tilde := true } word))
      let rest := from' longest (Glob.ofText pattern) value.text
      return [insertedValue manner name value rest]
  match operation with
  | .unknown => Run.fail "Bad substitution"
  | .value => return ((← existing manner name).map itself).getD []
  | .length =>
    let length := ((← existing { manner with splits := false } name).map (·.text.length)).getD 0
    return [inserted manner (toString length).toList]
  | .otherwise orEmpty =>
    match counts orEmpty with
    | some value => return itself value
    | none => inner
  | .instead orEmpty => if (counts orEmpty).isSome then inner else return []
  | .assign orEmpty =>
    match counts orEmpty with
    | some value => return itself value
    | none =>
      assign name (Chunk.textOf (← again { tilde := true } word))
      return ((← existing manner name).map itself).getD []
  | .demand orEmpty =>
    match counts orEmpty with
    | some value => return itself value
    | none =>
      let text := Chunk.textOf (← again { tilde := true } word)
      demand name (if word.isEmpty then none else some text) orEmpty
  | .cutStart longest => cut longest Pattern.cutStart
  | .cutEnd longest => cut longest Pattern.cutEnd

/-! ## Expressions -/

/-- The number that a variable holds, or else its text. Nothing counts as zero. -/
def numberOf (state : State) (name : String) : Except String Int :=
  let text := (state.valueOf? name).getD ""
  let digits := text.toList.dropWhile isSpace
  match Numeral.read (.anyBase false) digits with
  | some (value, rest) =>
    let (value, isOut) := Numeral.signed value
    if isOut || !rest.all isSpace then .error text else .ok value
  | none => if digits.isEmpty then .ok 0 else .error text

/-- The signal of a division that has no result. -/
def divisionSignal : Nat := 8

/-- The value of an expression. The assignments are made even if something is wrong after them. A division
whose quotient is too large ends the process by a signal. -/
def arithmetic (text : String) : Run Int := do
  let (result, assigned) := Arithmetic.evaluate (numberOf (← Run.state)) text
  assigned.forM fun assignment => Run.assign assignment.name (toString assignment.value)
  match result with
  | .ok value => return value
  | .error fault =>
    match fault.message? text with
    | some message => Run.fail message
    | none => Run.act (Act.finish (.signal divisionSignal))

/-! ## Words -/

/-- A text without the ends of lines at its end. -/
def trimmed (text : String) : List Char := (text.toList.reverse.dropWhile (· == '\n')).reverse

/-- Characters of a word that stand for themselves. -/
def literal (manner : Manner) (isQuoted : Bool) (cells : List Cell) : List Chunk :=
  if cells.isEmpty then []
  else [⟨cells.reverse, if manner.isInner && !manner.isQuoted && !isQuoted then .fields else .never⟩]

/-- Expands the parts of a word. The chunks so far and the cells of the last one are reversed; `mayBegin`
says that a tilde may come. -/
def parts (again : Again) (output : Output) (manner : Manner) (isQuoted mayBegin : Bool)
    (done : List Chunk) (cells : List Cell) : Nat → Word → Run (List Chunk)
  | 0, _ => return []
  | steps + 1, word => do
    let flushed := literal manner isQuoted cells ++ done
    let home ← if mayBegin && !isQuoted then home? manner.isAssignment word else pure none
    match home, word with
    | some (home, rest), _ =>
      parts again output manner isQuoted false (.plain home.toList true :: flushed) [] steps rest
    | none, [] => return flushed.reverse
    | none, part :: rest =>
      let outer := { manner with isQuoted := manner.isQuoted || isQuoted, tilde := false }
      let goOn (chunks : List Chunk) (rest : Word) : Run (List Chunk) :=
        parts again output manner isQuoted false (chunks.reverse ++ flushed) [] steps rest
      match part with
      | .char c =>
        let isEquals := manner.isAssignment && !manner.isAfterName && c = '='
        let begins := isEquals || (manner.isAssignment && c = ':')
        parts again output { manner with isAfterName := manner.isAfterName || isEquals } isQuoted begins
          done (.char c false :: cells) steps rest
      | .escaped c => goOn [⟨[.char c true], .never⟩] rest
      | .mark =>
        match isQuoted, rest with
        | false, .parameter "@" .value [] :: .mark :: rest =>
          let chunks ← parameter again { outer with isQuoted := true } "@" .value []
          goOn chunks rest
        | _, _ =>
          parts again output manner (!isQuoted) false (⟨[.mark], .never⟩ :: flushed) [] steps rest
      | .parameter name operation word => goOn (← parameter again outer name operation word) rest
      | .arithmetic expression =>
        let text := Chunk.textOf (← again { isQuoted := false } expression)
        let value ← arithmetic text
        goOn [inserted outer (toString value).toList] rest
      | .output command =>
        let text ← output command
        goOn [inserted outer (trimmed text)] rest

/-- Expands a word. The first argument bounds how deep words are nested. -/
def chunks (output : Output) : Nat → Manner → Word → Run (List Chunk)
  | 0, _, _ => Run.stop (.departure false)
  | depth + 1, manner, word =>
    parts (chunks output depth) output manner false manner.tilde [] [] (word.length + 1) word

/-- A bound for the nesting of words. -/
def depthLimit : Nat := 10000

/-- The paths that a field is a pattern for, or else its text. -/
def paths (field : List Cell) : Run (List String) := do
  let isSpecial := field.any fun cell =>
    match cell with
    | .char c _ => c == '*' || c == '?' || c == '['
    | .mark => false
  if !isSpecial || (← Run.state).has 'f' then return [textOfCells field]
  let directory ← Run.act Act.directory
  let found := Paths.ofPattern (← Run.act Act.files) directory (Pattern.ofCells true field)
  return if found.isEmpty then [textOfCells field] else found

/-- The fields of a word. -/
def fields (output : Output) (word : Word) : Run (List String) := do
  let chunks ← chunks output depthLimit { splits := true, tilde := true } word
  let fields := Chunk.split (← Run.state).separators none chunks
  return (← fields.mapM paths).flatten

/-- The text of a word, in some manner. -/
def textIn (output : Output) (manner : Manner) (word : Word) : Run String := do
  return Chunk.textOf (← chunks output depthLimit manner word)

/-- The text of a word. -/
def text (output : Output) (word : Word) : Run String := textIn output { tilde := true } word

/-- The text of an assignment. -/
def assignmentText (output : Output) (word : Word) : Run String :=
  textIn output { isAssignment := true } word

/-- The text of a word between double quotes. -/
def quotedText (output : Output) (word : Word) : Run String :=
  textIn output { isQuoted := true } word

/-- The pattern that a word is. -/
def pattern (output : Output) (word : Word) : Run (List Glob) := do
  let chunks ← chunks output depthLimit { tilde := true } word
  return Glob.ofText (Pattern.ofCells true (Chunk.cellsOf chunks))

end Runbook.Host.Shell.Expansion
