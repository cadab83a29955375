import Runbook.Host.Shell.Reader

/-!
# Words

How a word is read: its quotes, its parameters, its expressions and the commands in it. What a character
means depends on the quotes and braces around it, which are kept as a stack of levels.

A text after a command is read in the same way, as if it stood between double quotes, up to the line
that ends it.
-/

namespace Runbook.Host.Shell

/-! ## Codes -/

/-- A sign of a word, in the order in which it is read. -/
inductive Code where
  | char (c : Char)
  | escaped (c : Char)
  | mark
  /-- A parameter. Unless its value is taken as it is, a word follows up to the end of the parameter. -/
  | parameter (name : String) (operation : Operation)
  | endParameter
  | arithmetic
  | endArithmetic
  | output (command : Command)

/-- A part of a word that was begun: a parameter or an expression, and what stands before it. -/
structure Frame where
  opening : Option (String × Operation)
  /-- The parts before it, the last one first. -/
  before : Word

namespace Code

/-- Ends the last part that was begun. -/
def closeOne (parts : Word) : List Frame → Word × List Frame
  | [] => (parts, [])
  | frame :: frames =>
    let part := match frame.opening with
      | some (name, operation) => Part.parameter name operation parts.reverse
      | none => .arithmetic parts.reverse
    (part :: frame.before, frames)

/-- Ends parts that were begun, up to the last expression. -/
def closeExpression (parts : Word) : List Frame → Word × List Frame
  | [] => (parts, [])
  | frame :: frames =>
    let (parts, _) := closeOne parts [frame]
    if frame.opening.isNone then (parts, frames) else closeExpression parts frames

/-- Ends all parts that were begun. -/
def closeAll (parts : Word) : List Frame → Word
  | [] => parts
  | frame :: frames => closeAll (closeOne parts [frame]).1 frames

/-- The parts that signs make up; those before them are given, the last one first. -/
def nest (parts : Word) (frames : List Frame) : List Code → Word
  | [] => (closeAll parts frames).reverse
  | code :: codes =>
    match code with
    | char c => nest (.char c :: parts) frames codes
    | escaped c => nest (.escaped c :: parts) frames codes
    | mark => nest (.mark :: parts) frames codes
    | output command => nest (.output command :: parts) frames codes
    | parameter name .value => nest (.parameter name .value [] :: parts) frames codes
    | parameter name operation => nest [] (⟨some (name, operation), parts⟩ :: frames) codes
    | arithmetic => nest [] (⟨none, parts⟩ :: frames) codes
    | endParameter =>
      let (parts, frames) := closeOne parts frames
      nest parts frames codes
    | endArithmetic =>
      let (parts, frames) := closeExpression parts frames
      nest parts frames codes

end Code

/-! ## Levels -/

/-- What stands around a character. -/
inductive Around where
  | nothing
  | double
  | single
  | expression
  deriving DecidableEq, Repr

/-- A level of quotes and braces. -/
structure Level where
  around : Around
  /-- Double quotes within braces within double quotes. -/
  inInner : Bool := false
  /-- The level belongs to a brace. -/
  isPushed : Bool := false
  isDouble : Bool := false
  /-- The number of open braces. -/
  braces : Nat := 0
  /-- The number of open braces in double quotes. -/
  doubleBraces : Nat := 0
  /-- The number of open parentheses in an expression. -/
  parens : Nat := 0

/-- What was read of a word. -/
structure Scan where
  top : Level
  below : List Level
  /-- The signs, the last one first. -/
  out : List Code
  isQuoted : Bool

namespace Scan

/-- Nothing was read yet. -/
def start (around : Around) : Scan := ⟨{ around, isDouble := around == .double }, [], [], false⟩

/-- Adds a sign. -/
def add (scan : Scan) (code : Code) : Scan := { scan with out := code :: scan.out }

/-- Begins a level. -/
def push (scan : Scan) (level : Level) : Scan :=
  { scan with top := level, below := scan.top :: scan.below }

/-- Ends a level. -/
def pop (scan : Scan) : Scan :=
  match scan.below with
  | [] => scan
  | level :: below => { scan with top := level, below }

/-- Changes the level. -/
def modifyTop (scan : Scan) (change : Level → Level) : Scan := { scan with top := change scan.top }

/-- The word that was read. -/
def word (scan : Scan) : Word := Code.nest [] [] scan.out.reverse

end Scan

/-- What a character means. -/
inductive Meaning where
  | itself
  | newline
  | backslash
  | singleQuote
  | doubleQuote
  | endQuote
  | dollar
  | closeBrace
  | openParen
  | closeParen
  | backquote
  /-- It would mean something in a pattern. -/
  | active
  | separator
  | inputEnd
  deriving DecidableEq, Repr

/-- Characters with a meaning in patterns and in the values of variables. -/
def activeChars : List Char := ['!', '*', '?', '[', ']', '=', '~', ':', '/', '-']

/-- What an item means. -/
def meaning (around : Around) : Item → Meaning
  | .inputEnd => .inputEnd
  | .aliasEnd => .separator
  | .char c =>
    if c = '\n' then .newline
    else
      match around with
      | .nothing =>
        match c with
        | '\\' => .backslash
        | '\'' => .singleQuote
        | '"' => .doubleQuote
        | '\x60' => .backquote
        | '$' => .dollar
        | '\x7d' => .closeBrace
        | '<' | '>' | '(' | ')' | ';' | '&' | '|' | ' ' | '\t' => .separator
        | _ => .itself
      | .double =>
        match c with
        | '\\' => .backslash
        | '"' => .endQuote
        | '\x60' => .backquote
        | '$' => .dollar
        | '\x7d' => .closeBrace
        | c => if activeChars.contains c then .active else .itself
      | .single =>
        match c with
        | '\'' => .endQuote
        | '\\' => .active
        | c => if activeChars.contains c then .active else .itself
      | .expression =>
        match c with
        | '\\' => .backslash
        | '\x60' => .backquote
        | '$' => .dollar
        | '\x7d' => .closeBrace
        | '(' => .openParen
        | ')' => .closeParen
        | _ => .itself

namespace Lexer

open Runbook.Host.Shell.Parser

/-! ## Parameters -/

/-- The next item: lines are joined except between single quotes. -/
def nextIn (scan : Scan) : Parser Item := if scan.top.around == .single then next else nextJoined

/-- Reads as long as items have a property; the first argument bounds their number. The characters so
far are reversed. -/
def readWhile (property : Char → Bool) : Nat → Item → List Char → Parser (List Char × Item)
  | 0, item, text => return (text.reverse, item)
  | steps + 1, item, text => do
    match item with
    | .char c =>
      if property c then readWhile property steps (← nextJoined) (c :: text)
      else return (text.reverse, item)
    | item => return (text.reverse, item)

/-- The name of a parameter after `first`, whether it is one whose length is asked for, and the item
after it. There is no name if the text makes no sense. -/
def parameterName (inBraces : Bool) (first : Item) : Parser (Option (List Char) × Bool × Item) := do
  let named (isLength : Bool) (item : Item) : Parser (Option (List Char) × Bool × Item) := do
    match item with
    | .char c =>
      if startsName c then
        let (name, after) ← readWhile inName itemLimit item []
        return (some name, isLength, after)
      else if inBraces then
        let (name, after) ← readWhile Char.isDigit itemLimit item []
        return (some name, isLength, after)
      else return (some [c], isLength, ← nextJoined)
    | item => return (none, isLength, item)
  let isNamed (item : Item) : Bool := item.hasChar fun c => startsName c || c.isDigit
  if isNamed first then named false first
  else if first.isChar '\x7d' then return (none, false, first)
  else
    let after ← nextJoined
    let special (item after : Item) (isLength : Bool) : Parser (Option (List Char) × Bool × Item) :=
      match item with
      | .char c =>
        if isSpecialParameter c then return (some [c], isLength, after) else return (none, false, after)
      | _ => return (none, false, after)
    if inBraces && first.isChar '#' then
      if isNamed after then named true after
      else
        let third ← nextJoined
        if after.isChar '\x7d' || !third.isChar '\x7d' then
          putBack third
          special first after false
        else special after third true
    else special first after false

/-- The operation after the name of a parameter in braces, whose first item is given. -/
def operationAfter (item : Item) : Parser Operation := do
  let choice (orEmpty : Bool) (item : Item) : Operation :=
    match item with
    | .char '\x7d' => if orEmpty then .unknown else .value
    | .char '-' => .otherwise orEmpty
    | .char '+' => .instead orEmpty
    | .char '?' => .demand orEmpty
    | .char '=' => .assign orEmpty
    | _ => .unknown
  let doubled (c : Char) : Parser Bool := do
    let after ← nextJoined
    if after.isChar c then return true
    putBack after
    return false
  match item with
  | .char ':' => return choice true (← nextJoined)
  | .char '%' => return .cutEnd (← doubled '%')
  | .char '#' => return .cutStart (← doubled '#')
  | item => return choice false item

/-- The operation cuts something off. -/
def isCut : Operation → Bool
  | .cutStart _ | .cutEnd _ => true
  | _ => false

/-- Adds a parameter. -/
def addParameter (scan : Scan) (name : List Char) (operation : Operation) : Scan :=
  let scan := scan.add (.parameter (String.ofList name) operation)
  if operation == .value then scan
  else
    let around := if isCut operation then .nothing
      else if scan.top.around == .expression then .double
      else scan.top.around
    let scan := if around != scan.top.around || scan.top.inInner then
        scan.push { around, isPushed := true, isDouble := around != .nothing }
      else scan
    scan.modifyTop fun level => { level with
      braces := level.braces + 1
      doubleBraces := if level.isDouble then level.doubleBraces + 1 else level.doubleBraces }

/-- Reads a parameter whose first character after the dollar sign is given. -/
def parameter (scan : Scan) (first : Item) : Parser Scan := do
  if first.isChar '\x7b' then
    let (name, isLength, after) ← parameterName true (← nextJoined)
    match name with
    | none =>
      putBack after
      return addParameter scan [] .unknown
    | some name =>
      if isLength then
        putBack after
        return addParameter scan name (if after.isChar '\x7d' then .length else .unknown)
      else
        return addParameter scan name (← operationAfter after)
  else
    let (name, _, after) ← parameterName false first
    putBack after
    return addParameter scan (name.getD []) .value

/-! ## Commands in words -/

/-- Fails because a token has come in place of another one. -/
def unexpected {α : Type} (expected : Option Token) : Parser α := do
  let found := (← get).token.name ++ " unexpected"
  mistake ("Syntax error: " ++ match expected with
    | some token => found ++ " (expecting " ++ token.name ++ ")"
    | none => found)

/-- Reads the text up to a backquote; the text so far is reversed. The second argument bounds the number
of items. -/
def readBackquoted (isDouble : Bool) : Nat → List Char → Parser (List Char)
  | 0, text => return text.reverse
  | steps + 1, text => do
    match ← nextJoined with
    | .inputEnd => mistake "Syntax error: EOF in backquote substitution"
    | .aliasEnd => readBackquoted isDouble steps text
    | .char '\x60' => return text.reverse
    | .char '\\' =>
      match ← next with
      | .char c =>
        let isEscaped := c == '\\' || c == '\x60' || c == '$' || (isDouble && c == '"')
        readBackquoted isDouble steps (if isEscaped then c :: text else c :: '\\' :: text)
      | _ => readBackquoted isDouble steps ('\\' :: text)
    | .char c =>
      if c = '\n' then countLine
      readBackquoted isDouble steps (c :: text)

/-- Reads a command between backquotes. Its text is read anew, as that of a shell of its own. -/
def backquoted (commands : Parser Command) (scan : Scan) : Parser Scan := do
  let text ← readBackquoted scan.top.isDouble itemLimit []
  let reader ← get
  set { Reader.ofText text 1 true reader.documents reader.aliases with busy := reader.busyAliases }
  let command ← commands
  let documents := (← get).documents
  set { reader with documents, isBack := false }
  return scan.add (.output command)

/-- Reads a command between parentheses. Texts that are still awaited at its end stay empty. -/
def parenthesised (commands : Parser Command) (scan : Scan) : Parser Scan := do
  let awaited := (← get).awaited
  modify fun reader => { reader with awaited := [] }
  let command ← commands
  if (← get).token != .closeParen then unexpected (some .closeParen)
  modify fun reader => { reader with isBack := false, awaited }
  return scan.add (.output command)

/-! ## Words -/

/-- The text that is read up to a line, and that line. -/
abbrev Marker := Option (List Char × Bool)

/-- A dollar sign. -/
def dollar (commands : Parser Command) (scan : Scan) : Parser Scan := do
  let first ← nextJoined
  let begins := first.hasChar fun c =>
    c == '(' || c == '\x7b' || startsName c || isSpecialParameter c
  if (← get).checks.marker || !begins then
    putBack first
    return scan.add (.char '$')
  else if first.isChar '(' then
    let second ← nextJoined
    if second.isChar '(' then
      return (scan.push { around := .expression, isDouble := true }).add .arithmetic
    putBack second
    parenthesised commands scan
  else parameter scan first

/-- A backslash. -/
def backslash (marker : Marker) (scan : Scan) : Parser Scan := do
  match ← next with
  | .char c =>
    let stays := scan.top.isDouble && c != '\\' && c != '\x60' && c != '$' &&
      (c != '"' || (marker.isSome && scan.top.braces == 0)) && (c != '\x7d' || scan.top.braces == 0)
    let scan := if stays then scan.add (.escaped '\\') else scan
    return { scan.add (.escaped c) with isQuoted := true }
  | item =>
    putBack item
    return scan.add (.escaped '\\')

/-- Quotes begin or end. -/
def quoteMark (marker : Marker) (scan : Scan) : Scan :=
  if marker.isNone then scan.add .mark else scan

/-- Double quotes begin or end. -/
def toggleDouble (marker : Marker) (scan : Scan) : Scan :=
  let scan := if scan.top.braces = 0 then scan
    else scan.modifyTop fun level => { level with inInner := !level.inInner }
  quoteMark marker scan

/-- Quotes end. -/
def endQuote (marker : Marker) (c : Char) (scan : Scan) : Scan :=
  if marker.isSome && scan.top.braces = 0 then scan.add (.char c)
  else
    let scan := if scan.top.doubleBraces = 0 then
        scan.modifyTop fun level => { level with around := .nothing, isDouble := false }
      else scan
    let scan := { scan with isQuoted := true }
    if c = '"' then toggleDouble marker scan else quoteMark marker scan

/-- A closing brace. -/
def closeBrace (scan : Scan) : Scan :=
  if scan.top.inInner || scan.top.braces = 0 then scan.add (.char '\x7d')
  else
    let scan := scan.modifyTop fun level => { level with braces := level.braces - 1 }
    let scan := if scan.top.braces = 0 && scan.top.isPushed then scan.pop
      else scan.modifyTop fun level => { level with doubleBraces := level.doubleBraces - 1 }
    scan.add .endParameter

/-- A closing parenthesis in an expression. -/
def closeParen (scan : Scan) : Parser Scan := do
  if 0 < scan.top.parens then
    return (scan.add (.char ')')).modifyTop fun level => { level with parens := level.parens - 1 }
  let after ← next
  if after.isChar ')' then return (scan.add .endArithmetic).pop
  putBack after
  return scan.add (.char ')')

/-- Skips tabs. The first argument bounds their number. -/
def skipTabs : Nat → Item → Parser Item
  | 0, item => return item
  | steps + 1, item => do if item.isChar '\t' then skipTabs steps (← next) else return item

/-- The line that starts with an item is the one with a text. -/
def isLine : List Char → Item → Parser Bool
  | [], item => return item.isChar '\n' || item == .inputEnd
  | c :: rest, item => do if item.isChar c then isLine rest (← next) else return false

/-- The start of a line: it may be the one after a text. -/
def atLineStart (marker : Marker) (item : Item) : Parser Item := do
  match marker with
  | none => return item
  | some (marker, dropsTabs) =>
    let item ← if item == .aliasEnd then next else pure item
    let item ← if dropsTabs then skipTabs itemLimit item else pure item
    let reader ← get
    if ← isLine marker item then
      countLine
      return .inputEnd
    set reader
    return item

/-- The end of a word, whose quotes and braces must be closed. -/
def checkEnd (marker : Marker) (scan : Scan) : Parser Unit := do
  if scan.top.around == .expression then mistake "Syntax error: Missing '))'"
  if scan.top.around != .nothing && marker.isNone then
    mistake "Syntax error: Unterminated quoted string"
  if scan.top.braces != 0 then mistake "Syntax error: Missing '\x7d'"

/-- Reads a word from an item on, and gives the item after it. The number bounds that of the items. -/
def scanWord (commands : Parser Command) (marker : Marker) : Nat → Bool → Item → Scan → Parser (Scan × Item)
  | 0, _, item, scan => return (scan, item)
  | steps + 1, isLineStart, item, scan => do
    let item ← if isLineStart then atLineStart marker item else pure item
    let goOn (scan : Scan) : Parser (Scan × Item) := do
      scanWord commands marker steps false (← nextIn scan) scan
    let c := match item with
      | .char c => c
      | _ => ' '
    match meaning scan.top.around item with
    | .itself => goOn (scan.add (.char c))
    | .active =>
      goOn (scan.add (if marker.isNone || scan.top.isDouble then .escaped c else .char c))
    | .newline =>
      if scan.top.around == .nothing && scan.top.braces = 0 then return (scan, item)
      countLine
      scanWord commands marker steps true (← nextIn scan) (scan.add (.char c))
    | .backslash => goOn (← backslash marker scan)
    | .singleQuote =>
      goOn (quoteMark marker (scan.modifyTop fun level => { level with around := .single }))
    | .doubleQuote =>
      goOn (toggleDouble marker
        (scan.modifyTop fun level => { level with around := .double, isDouble := true }))
    | .endQuote => goOn (endQuote marker c scan)
    | .dollar => goOn (← dollar commands scan)
    | .closeBrace => goOn (closeBrace scan)
    | .openParen =>
      goOn ((scan.add (.char c)).modifyTop fun level => { level with parens := level.parens + 1 })
    | .closeParen => goOn (← closeParen scan)
    | .backquote =>
      if (← get).checks.marker then goOn (scan.add (.char c))
      else goOn (← backquoted commands scan)
    | .inputEnd => return (scan, item)
    | .separator =>
      if scan.top.braces = 0 then return (scan, item)
      goOn (if item == .aliasEnd then scan else scan.add (.char c))

/-! ## Redirections -/

/-- Reads the rest of the sign of a redirection, of which the first character is given. -/
def arrow (first : Char) : Parser (Nat × Arrow) := do
  let item ← nextJoined
  if first = '>' then
    match item with
    | .char '>' => return (1, .file .append)
    | .char '|' => return (1, .file .overwrite)
    | .char '&' => return (1, .copy)
    | item =>
      putBack item
      return (1, .file .write)
  else
    match item with
    | .char '<' =>
      let after ← nextJoined
      if after.isChar '-' then return (0, .document true)
      putBack after
      return (0, .document false)
    | .char '&' => return (0, .copy)
    | .char '>' => return (0, .file .readWrite)
    | item =>
      putBack item
      return (0, .file .read)

/-- The sign of a redirection may come after a word: none, or a digit. -/
def streamBefore? (scan : Scan) : Option (Option Nat) :=
  if scan.isQuoted then none
  else
    match scan.out with
    | [] => some none
    | [.char c] => if c.isDigit then some (some (c.toNat - '0'.toNat)) else none
    | _ => none

/-- Reads a word, or the sign of a redirection, from an item on. -/
def wordFrom (commands : Parser Command) (item : Item) : Parser Token := do
  let (scan, after) ← scanWord commands none itemLimit false item (.start .nothing)
  checkEnd none scan
  let sign := match after with
    | .char c => if c = '<' ∨ c = '>' then (streamBefore? scan).map (c, ·) else none
    | _ => none
  match sign with
  | some (c, stream) =>
    let (standard, arrow) ← arrow c
    modify fun reader => { reader with
      arrow := (stream.getD standard, arrow), token := .redirection }
    return .redirection
  | none =>
    putBack after
    modify fun reader => { reader with
      word := scan.word, isQuoted := scan.isQuoted, token := .word }
    return .word

/-- Reads the text that is awaited. -/
def document (commands : Parser Command) (awaited : Awaited) : Parser Unit := do
  let around := if awaited.expands then Around.double else .single
  let marker := some (awaited.marker, awaited.dropsTabs)
  let first ← if awaited.expands then nextJoined else next
  let (scan, _) ← scanWord commands marker itemLimit true first (.start around)
  checkEnd marker scan
  modify fun reader => { reader with
    documents := reader.documents.set! awaited.index ⟨awaited.expands, scan.word⟩ }

/-- Reads a whole text, as what stands between double quotes. -/
def wholeText (commands : Parser Command) : Parser Word := do
  let marker := some (['\x00'], false)
  let (scan, _) ← scanWord commands marker itemLimit true (← nextJoined) (.start .double)
  checkEnd marker scan
  return scan.word

end Lexer

end Runbook.Host.Shell
