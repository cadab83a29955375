import Runbook.Host.Shell.Syntax

/-!
# Readers

A `Reader` is the text that a shell has still to read, and what it remembers of what it has read. The
text of an alias is read in front of what comes after the alias; when it ends this is told once, so that
no word goes on behind it, unless the text ends with a blank: then the next word may be an alias, too.

A `Parser` takes a result from a reader. It fails by a `Fault`: at a mistake, or because the text ends
and more of it may come.
-/

namespace Runbook.Host.Shell

/-- What is read next. -/
inductive Item where
  | char (c : Char)
  | aliasEnd
  | inputEnd
  deriving DecidableEq, Repr

namespace Item

/-- The item is a character. -/
def isChar (item : Item) (c : Char) : Bool := item == .char c

/-- The item is a character with a property. -/
def hasChar (item : Item) (property : Char → Bool) : Bool :=
  match item with
  | char c => property c
  | _ => false

end Item

/-- A text in front of others. -/
structure Layer where
  rest : List Char
  /-- The alias whose text this is. -/
  name : Option String
  endsBlank : Bool
  /-- The end of the text was told. -/
  isTold : Bool

/-- What the next word is checked for. -/
structure Checks where
  /-- Ends of lines are left out. -/
  newlines : Bool := false
  keywords : Bool := false
  aliases : Bool := false
  /-- The word is the end of a text that is read later: nothing in it is expanded. -/
  marker : Bool := false

/-- A word with a meaning of its own. -/
inductive Keyword where
  | not | case' | do' | done | elif | else' | esac | fi | for' | if' | in' | then' | until' | while'
  | opening | closing
  deriving DecidableEq, Repr

namespace Keyword

/-- The keywords and their texts. -/
def table : List (Keyword × String) := [
  (not, "!"), (case', "case"), (do', "do"), (done, "done"), (elif, "elif"), (else', "else"),
  (esac, "esac"), (fi, "fi"), (for', "for"), (if', "if"), (in', "in"), (then', "then"),
  (until', "until"), (while', "while"), (opening, "\x7b"), (closing, "\x7d")]

/-- The text of a keyword. -/
def text (keyword : Keyword) : String :=
  ((table.find? (·.1 == keyword)).map (·.2)).getD ""

/-- The keyword with a text. -/
def ofText? (text : List Char) : Option Keyword :=
  (table.find? (·.2.toList == text)).map (·.1)

end Keyword

/-- The smallest parts of commands. -/
inductive Token where
  | inputEnd
  | newline
  | semicolon
  | ampersand
  | and
  | or
  | pipe
  | openParen
  | closeParen
  | endBranch
  | redirection
  | word
  | keyword (keyword : Keyword)
  deriving DecidableEq, Repr

namespace Token

/-- What a token is called in messages. -/
def name : Token → String
  | inputEnd => "end of file"
  | newline => "newline"
  | semicolon => "\";\""
  | ampersand => "\"&\""
  | and => "\"&&\""
  | or => "\"||\""
  | pipe => "\"|\""
  | openParen => "\"(\""
  | closeParen => "\")\""
  | endBranch => "\";;\""
  | redirection => "redirection"
  | word => "word"
  | keyword found => "\"" ++ found.text ++ "\""

/-- The token ends a list of commands. -/
def endsList : Token → Bool
  | inputEnd | closeParen | endBranch => true
  | keyword found =>
    [Keyword.do', .done, .elif, .else', .esac, .fi, .then', .closing].contains found
  | _ => false

end Token

/-- What a redirection does, before it is known what it leads to. -/
inductive Arrow where
  | file (direction : Direction)
  | copy
  | document (dropsTabs : Bool)

/-- A text that is to be read after the line. -/
structure Awaited where
  index : Nat
  /-- The line after the text. -/
  marker : List Char
  dropsTabs : Bool
  expands : Bool

/-- The text that has still to be read, and what was read. -/
structure Reader where
  /-- What is read before the text. -/
  unread : List Item
  /-- The texts, the innermost first. -/
  layers : List Layer
  line : Nat
  /-- No more text can come. -/
  isWhole : Bool
  checks : Checks := {}
  /-- The last token is to be read again. -/
  isBack : Bool := false
  token : Token := .newline
  word : Word := []
  /-- There are quotes in the last word. -/
  isQuoted : Bool := false
  /-- The last redirection that was begun: its stream, and what it does with it. -/
  arrow : Nat × Arrow := (0, .copy)
  awaited : List Awaited := []
  documents : Array Document
  aliases : List (String × String)
  /-- The aliases that are not looked up because their texts are being read. -/
  busy : List String := []

/-- Why a text cannot be understood. -/
inductive Fault where
  | mistake (line : Nat) (text : String)
  /-- The text ends, and more may come. -/
  | unfinished

/-- Something that is read. -/
abbrev Parser := StateT Reader (Except Fault)

namespace Reader

/-- A reader of a text. -/
def ofText (text : List Char) (line : Nat) (isWhole : Bool) (documents : Array Document)
    (aliases : List (String × String)) : Reader :=
  { unread := [], layers := [⟨text, none, false, false⟩], line, isWhole, documents, aliases }

/-- The text that has still to be read, but for the texts of aliases. -/
def rest (reader : Reader) : List Char := ((reader.layers.getLast?).map (·.rest)).getD []

/-- A reader with more text, or with the end of it. -/
def append (reader : Reader) (text : List Char) : Reader :=
  let layers := match reader.layers.getLast? with
    | some base => reader.layers.dropLast ++ [{ base with rest := base.rest ++ text }]
    | none => [⟨text, none, false, false⟩]
  { reader with layers, isWhole := text.isEmpty }

/-- The next item of texts, and the reader after it. -/
def advance (reader : Reader) : List Layer → Item × Reader
  | [] => (.inputEnd, { reader with layers := [] })
  | [base] =>
    match base.rest with
    | c :: rest => (.char c, { reader with layers := [{ base with rest }] })
    | [] => (.inputEnd, { reader with layers := [base] })
  | top :: below =>
    match top.rest with
    | c :: rest => (.char c, { reader with layers := { top with rest } :: below })
    | [] =>
      if top.endsBlank then
        advance { reader with checks := { reader.checks with aliases := true } } below
      else if top.isTold then advance reader below
      else (.aliasEnd, { reader with layers := { top with isTold := true } :: below })

/-- The aliases whose texts are being read. -/
def busyAliases (reader : Reader) : List String := reader.layers.filterMap (·.name) ++ reader.busy

/-- Puts the text of an alias in front. -/
def push (reader : Reader) (name text : String) : Reader :=
  let endsBlank := text.toList.getLast?.any fun c => c == ' ' || c == '\t'
  { reader with layers := ⟨text.toList, some name, endsBlank, false⟩ :: reader.layers }

end Reader

namespace Parser

/-- The next item. -/
def next : Parser Item := do
  let reader ← get
  match reader.unread with
  | item :: unread =>
    set { reader with unread }
    return item
  | [] =>
    let (item, reader) := reader.advance reader.layers
    if item == .inputEnd && !reader.isWhole then throw .unfinished
    set reader
    return item

/-- Puts an item back. -/
def putBack (item : Item) : Parser Unit :=
  modify fun reader => { reader with unread := item :: reader.unread }

/-- Counts a line. -/
def countLine : Parser Unit := modify fun reader => { reader with line := reader.line + 1 }

/-- A bound for the number of items. -/
def itemLimit : Nat := Nat.pow 2 40

/-- The next item, with lines joined where a backslash stands before their end. The argument bounds the
number of lines. -/
def joinLines : Nat → Parser Item
  | 0 => return .inputEnd
  | steps + 1 => do
    let item ← next
    if item != .char '\\' then return item
    let after ← next
    if after == .char '\n' then
      countLine
      joinLines steps
    else
      putBack after
      return item

/-- The next item of joined lines. -/
def nextJoined : Parser Item := joinLines itemLimit

/-- Fails by a mistake. -/
def mistake {α : Type} (text : String) : Parser α := do throw (.mistake (← get).line text)

end Parser

end Runbook.Host.Shell
