import Runbook.Host.Shell.Lexer

/-!
# The grammar of commands

How tokens make up commands. `Parser.wholeCommand` reads one command that stands for itself, up to the
end of its line, so that it can be carried out before the next one is read.

Lists of commands stand within commands and within words. The functions here are given a function that
reads such a list, and the first argument of `Parser.list` bounds how deep lists are nested.
-/

namespace Runbook.Host.Shell

/-- Where a list of commands stands. -/
inductive Place where
  /-- On lines of its own. -/
  | line
  /-- Between keywords: there must be a command. -/
  | body
  /-- Where there may be no command. -/
  | inner
  deriving DecidableEq, Repr

/-- The commands of the shell that are found before functions. -/
def specialNames : List String :=
  [".", ":", "break", "continue", "eval", "exec", "exit", "export", "local", "readonly", "return",
    "set", "shift", "times", "trap", "unset"]

namespace Parser

open Lexer (unexpected)

/-- A reader of lists. -/
abbrev Lists := Place → Parser Command

variable (lists : Lists)

/-! ## Tokens -/

/-- Sets what the next word is checked for. -/
def check (checks : Checks) : Parser Unit := modify fun reader => { reader with checks }

/-- The checks at the start of a command. -/
def atCommand : Checks := { keywords := true, aliases := true }

/-- The checks at the start of a command that may stand on another line. -/
def atLaterCommand : Checks := { newlines := true, keywords := true, aliases := true }

/-- Puts the last token back. -/
def tokenBack : Parser Unit := modify fun reader => { reader with isBack := true }

/-- Notes a token. -/
def note (token : Token) : Parser Token := do
  modify fun reader => { reader with token }
  return token

/-- The token of a character that may stand twice. -/
def doubledToken (c : Char) (one two : Token) : Parser Token := do
  let after ← nextJoined
  if after.isChar c then note two
  else
    putBack after
    note one

/-- Skips the rest of a line. The argument bounds the number of items. -/
def skipLine : Nat → Parser Unit
  | 0 => return ()
  | steps + 1 => do
    let item ← next
    if item.isChar '\n' || item == .inputEnd then putBack item else skipLine steps

/-- Reads a token. The first argument bounds the number of blanks and comments before it. -/
def freshToken : Nat → Parser Token
  | 0 => note .inputEnd
  | steps + 1 => do
    let item ← nextJoined
    match item with
    | .inputEnd => note .inputEnd
    | .aliasEnd | .char ' ' | .char '\t' => freshToken steps
    | .char '#' =>
      skipLine itemLimit
      freshToken steps
    | .char '\n' =>
      countLine
      note .newline
    | .char '&' => doubledToken '&' .ampersand .and
    | .char '|' => doubledToken '|' .pipe .or
    | .char ';' => doubledToken ';' .semicolon .endBranch
    | .char '(' => note .openParen
    | .char ')' => note .closeParen
    | item => Lexer.wordFrom (lists .inner) item

/-- The token that was put back, or a new one. -/
def rawToken : Parser Token := do
  let reader ← get
  if reader.isBack then
    set { reader with isBack := false }
    return reader.token
  freshToken lists itemLimit

/-- Reads the texts that are awaited. -/
def documents : Parser Unit := do
  let awaited := (← get).awaited
  modify fun reader => { reader with awaited := [] }
  awaited.forM (Lexer.document (lists .inner))

/-- Reads a token that is no end of a line. The first argument bounds the number of lines. -/
def pastNewlines : Nat → Token → Parser Token
  | 0, token => return token
  | steps + 1, token => do
    if token != .newline then return token
    documents lists
    check {}
    pastNewlines steps (← rawToken lists)

/-- Reads a token, and finds keywords and aliases as far as this is asked for. The first argument bounds
the number of aliases. -/
def tokenWith : Nat → Checks → Parser Token
  | 0, _ => return .inputEnd
  | steps + 1, before => do
    let token ← rawToken lists
    let token ← if before.newlines then pastNewlines lists itemLimit token else pure token
    let reader ← get
    let checks := { before with
      keywords := before.keywords || reader.checks.keywords
      aliases := before.aliases || reader.checks.aliases }
    check {}
    if token != .word || reader.isQuoted then return token
    match plainText? reader.word with
    | none => return token
    | some text =>
      match if checks.keywords then Keyword.ofText? text else none with
      | some keyword => note (.keyword keyword)
      | none =>
        let name := String.ofList text
        let found := if checks.aliases && !reader.busyAliases.contains name then
            reader.aliases.find? (·.1 == name) else none
        match found with
        | none => return token
        | some (_, value) =>
          if !value.isEmpty then modify (·.push name value)
          tokenWith steps checks

/-- Reads a token. -/
def token : Parser Token := do tokenWith lists itemLimit (← get).checks

/-- Reads a keyword that has to come. -/
def expect (expected : Token) : Parser Unit := do
  if (← token lists) != expected then unexpected (some expected)

/-- The last word. -/
def lastWord : Parser Word := return (← get).word

/-! ## Redirections -/

/-- The text of a word without its quotes. -/
def unquoted : Word → List Char
  | [] => []
  | .char c :: rest | .escaped c :: rest => c :: unquoted rest
  | .parameter name _ _ :: rest => name.toList ++ unquoted rest
  | _ :: rest => unquoted rest

/-- What a stream becomes that is a copy of the one that a word names, if this is clear. -/
def copyOf? (word : List Char) : Option (Option Nat) :=
  match word with
  | ['-'] => some none
  | [c] => if c.isDigit then some (some (c.toNat - '0'.toNat)) else none
  | _ => none

/-- Awaits a text, and gives its index. -/
def await (marker : List Char) (dropsTabs expands : Bool) : Parser Nat := do
  let reader ← get
  let index := reader.documents.size
  set { reader with
    documents := reader.documents.push ⟨expands, []⟩
    awaited := reader.awaited ++ [Awaited.mk index marker dropsTabs expands] }
  return index

/-- Reads what comes after the sign of a redirection. -/
def redirection : Parser Redirection := do
  let (stream, arrow) := (← get).arrow
  match arrow with
  | .document _ => check { marker := true }
  | _ => pure ()
  if (← token lists) != .word then unexpected none
  let reader ← get
  match arrow with
  | .file direction => return .file stream direction reader.word
  | .document dropsTabs =>
    return .document stream (← await (unquoted reader.word) dropsTabs (!reader.isQuoted))
  | .copy =>
    match (plainText? reader.word).bind copyOf? with
    | some other => return .copy stream other
    | none => return .copyNamed stream reader.word

/-- Reads redirections after a command; the first argument bounds their number, and those so far are
reversed. -/
def redirections : Nat → List Redirection → Parser (List Redirection)
  | 0, found => return found.reverse
  | steps + 1, found => do
    if (← token lists) != .redirection then
      tokenBack
      return found.reverse
    redirections steps ((← redirection lists) :: found)

/-! ## Simple commands -/

/-- What was read of a simple command, the last part first. -/
structure Simple where
  assignments : List Word := []
  words : List Word := []
  redirections : List Redirection := []

/-- Reads the rest of the definition of a function. -/
def definition (command : Parser Command) (name : Word) : Parser Command := do
  expect lists .closeParen
  match (plainText? name).filter fun name =>
      isName name && !specialNames.contains (String.ofList name) with
  | none => mistake "Syntax error: Bad function name"
  | some name =>
    check atLaterCommand
    let line := (← get).line
    return .define line (String.ofList name) (← command)

/-- Reads a simple command, or a definition. The number bounds that of the tokens. -/
def simple (command : Parser Command) (line : Nat) : Nat → Simple → Parser Command
  | 0, _ => return .nothing
  | steps + 1, found => do
    check { aliases := found.words.isEmpty }
    match ← token lists with
    | .word =>
      let word ← lastWord
      if found.words.isEmpty && (assignment? word).isSome then
        simple command line steps { found with assignments := word :: found.assignments }
      else simple command line steps { found with words := word :: found.words }
    | .redirection =>
      let redirection ← redirection lists
      simple command line steps { found with redirections := redirection :: found.redirections }
    | token =>
      match token == .openParen && found.assignments.isEmpty && found.redirections.isEmpty,
        found.words with
      | true, [name] => definition lists command name
      | _, _ =>
        tokenBack
        return .simple line found.assignments.reverse found.words.reverse found.redirections.reverse

/-! ## Compound commands -/

/-- Reads the rest of a choice, after its first keyword. The number bounds that of the conditions. -/
def choice : Nat → Parser Command
  | 0 => return .nothing
  | steps + 1 => do
    let condition ← lists .body
    expect lists (.keyword .then')
    let yes ← lists .body
    match ← token lists with
    | .keyword .elif => return .choice condition yes (← choice steps)
    | .keyword .else' => return .choice condition yes (← lists .body)
    | _ =>
      tokenBack
      return .choice condition yes .nothing

/-- Reads words up to a token that is none; the words so far are reversed. -/
def wordList : Nat → List Word → Parser (List Word)
  | 0, words => return words.reverse
  | steps + 1, words => do
    if (← token lists) == .word then wordList steps ((← lastWord) :: words) else return words.reverse

/-- The positional parameters, each as one word. -/
def allParameters : Word := [.mark, .parameter "@" .value [], .mark]

/-- Reads the rest of a command for each of some words. -/
def eachWord (line : Nat) : Parser Command := do
  let isWord := (← token lists) == .word
  let reader ← get
  match (plainText? reader.word).filter fun name => isWord && !reader.isQuoted && isName name with
  | none => mistake "Syntax error: Bad for loop variable"
  | some name =>
    check atLaterCommand
    let words ← match ← token lists with
      | .keyword .in' => do
        let words ← wordList lists itemLimit []
        let last := (← get).token
        if last != .newline && last != .semicolon then unexpected none
        pure words
      | .semicolon => pure [allParameters]
      | _ => do
        tokenBack
        pure [allParameters]
    check atLaterCommand
    expect lists (.keyword .do')
    return .each line (String.ofList name) words (← lists .body)

/-- Reads the patterns of a branch, the first of which is the last token; those so far are reversed. A
token that is no word stands for the last word. -/
def patterns : Nat → List Word → Parser (List Word)
  | 0, found => return found.reverse
  | steps + 1, found => do
    let found := (← lastWord) :: found
    if (← token lists) == .pipe then
      let _ ← token lists
      patterns steps found
    else return found.reverse

/-- Reads the branches of a selection; those so far are reversed. -/
def branches : Nat → List Branch → Parser (List Branch)
  | 0, found => return found.reverse
  | steps + 1, found => do
    check { newlines := true, keywords := true }
    let first ← token lists
    if first == .keyword .esac then return found.reverse
    if first == .openParen then let _ ← token lists
    let patterns ← patterns lists itemLimit []
    if (← get).token != .closeParen then unexpected (some .closeParen)
    let found := .mk patterns (← lists .inner) :: found
    check { newlines := true, keywords := true }
    match ← token lists with
    | .keyword .esac => return found.reverse
    | .endBranch => branches steps found
    | _ => unexpected (some .endBranch)

/-- Reads the rest of a selection. -/
def selection (line : Nat) : Parser Command := do
  expect lists .word
  let word ← lastWord
  check atLaterCommand
  expect lists (.keyword .in')
  return .select line word (← branches lists itemLimit [])

/-- A command with redirections. -/
def redirect (line : Nat) (command : Command) (redirections : List Redirection) : Command :=
  match command, redirections with
  | command, [] => command
  | .subshell line command _, redirections => .subshell line command redirections
  | command, redirections => .redirected line command redirections

/-- Reads the redirections after a compound command. -/
def redirected (line : Nat) (command : Command) : Parser Command := do
  check atCommand
  return redirect line command (← redirections lists itemLimit [])

/-- Reads a compound command up to its last keyword, and its redirections. -/
def closed (line : Nat) (closing : Token) (command : Parser Command) : Parser Command := do
  let command ← command
  expect lists closing
  redirected lists line command

/-- Reads a command. The first argument bounds how deep definitions are nested. -/
def command : Nat → Parser Command
  | 0 => return .nothing
  | steps + 1 => do
    let line := (← get).line
    match ← token lists with
    | .keyword .if' => closed lists line (.keyword .fi) (choice lists itemLimit)
    | .keyword .while' => loop line false
    | .keyword .until' => loop line true
    | .keyword .for' => closed lists line (.keyword .done) (eachWord lists line)
    | .keyword .case' => do redirected lists line (← selection lists line)
    | .openParen =>
      closed lists line .closeParen do return .subshell line (← lists .body) []
    | .keyword .opening => closed lists line (.keyword .closing) (lists .body)
    | .word | .redirection =>
      tokenBack
      let line := (← get).line
      simple lists (command steps) line itemLimit {}
    | _ => unexpected none
where
  loop (line : Nat) (until' : Bool) : Parser Command :=
    closed lists line (.keyword .done) do
      let condition ← lists .body
      expect lists (.keyword .do')
      return .loop until' condition (← lists .body)

/-! ## Lists -/

/-- A bound for the nesting of commands. -/
def depthLimit : Nat := 10000

/-- Reads the further commands of a pipeline; those so far are reversed. -/
def pipes : Nat → List Command → Parser (List Command)
  | 0, commands => return commands.reverse
  | steps + 1, commands => do
    if (← token lists) != .pipe then return commands.reverse
    check atLaterCommand
    pipes steps ((← command lists depthLimit) :: commands)

/-- Reads a pipeline. -/
def pipeline : Parser Command := do
  let negated := (← token lists) == .keyword .not
  if negated then check atCommand else tokenBack
  let first ← command lists depthLimit
  let commands ← pipes lists itemLimit [first]
  tokenBack
  let all := match commands with
    | [] | [_] => first
    | commands => .pipeline false commands
  return if negated then .negated all else all

/-- Reads pipelines that depend on each other, after the first of them. -/
def chain : Nat → Command → Parser Command
  | 0, first => return first
  | steps + 1, first => do
    match ← token lists with
    | .and =>
      check atLaterCommand
      chain steps (.andThen first (← pipeline lists))
    | .or =>
      check atLaterCommand
      chain steps (.orElse first (← pipeline lists))
    | _ =>
      tokenBack
      return first

/-- The command, carried out in the background. -/
def toBackground : Command → Command
  | .pipeline _ commands => .pipeline true commands
  | .redirected line command redirections => .inBackground line command redirections
  | command => .inBackground 0 command []

/-- A command after another one, if there is one. -/
def after : Option Command → Command → Command
  | none, command => command
  | some first, second => .sequence first second

/-- Reads a list of commands after those that were read; none if there is nothing but the end of the
input. The first argument bounds the number of commands. -/
def listFrom (place : Place) : Nat → Option Command → Parser (Option Command)
  | 0, found => return found
  | steps + 1, found => do
    check (if place == .line then atCommand else atLaterCommand)
    let first ← token lists
    match first with
    | .newline =>
      documents lists
      return some (found.getD .nothing)
    | .inputEnd =>
      documents lists
      let _ ← note .inputEnd
      tokenBack
      return if place == .line then found else some (found.getD .nothing)
    | first =>
      tokenBack
      let mayEnd := place == .inner || (place == .body && found.isSome)
      if mayEnd && first.endsList then return some (found.getD .nothing)
      let command ← chain lists itemLimit (← pipeline lists)
      let separator ← token lists
      let command := if separator == .ampersand then toBackground command else command
      let found := after found command
      match separator with
      | .inputEnd =>
        documents lists
        let _ ← note .inputEnd
        tokenBack
        return some found
      | .newline =>
        tokenBack
        listFrom place steps (some found)
      | .ampersand | .semicolon => listFrom place steps (some found)
      | _ =>
        if place == .line then unexpected none
        tokenBack
        return some found

/-- Reads a list of commands. The first argument bounds how deep lists are nested. -/
def list : Nat → Place → Parser (Option Command)
  | 0, _ => mistake "Syntax error: commands are nested too deep"
  | depth + 1, place =>
    listFrom (fun place => do return (← list depth place).getD .nothing) place itemLimit none

/-- Reads a command that stands for itself; none at the end of the input. -/
def wholeCommand : Parser (Option Command) := do
  modify fun reader => { reader with checks := {}, isBack := false, awaited := [] }
  list depthLimit .line

end Parser

/-- A command of a text, if there is one, and the reader after it. -/
def Reader.command? (reader : Reader) : Except Fault (Option Command × Reader) :=
  Parser.wholeCommand.run reader

/-- The whole of a text as a word between double quotes, and the reader after it. -/
def Reader.quoted? (reader : Reader) : Except Fault (Word × Reader) :=
  (Lexer.wholeText (do return (← Parser.list Parser.depthLimit .inner).getD .nothing)).run reader

end Runbook.Host.Shell
