/-!
# Words of a line

How a POSIX shell cuts a line into words, one character at a time.

* `Lexer.step` reads one character. Words are separated by spaces, tabs and line feeds; `#` at the
  start of a word opens a comment, which ends with the line; a backslash, single quotes and double
  quotes take the special meaning from what they cover; a backslash before a line feed vanishes,
  although a word has started with it.
* `Lexer.finish?` closes the last word. It fails inside quotes and after a lone backslash.
* `Word.split?` runs the lexer over a text.

Reading `x ++ y` is reading `y` from the state in which `x` leaves the lexer.
-/

namespace Runbook.Word

/-- Where the lexer stands. -/
inductive Mode where
  /-- Between words. -/
  | gap
  /-- In a comment. -/
  | comment
  /-- In a word, outside quotes. -/
  | plain
  /-- After a backslash outside quotes. -/
  | escaped
  /-- In single quotes. -/
  | single
  /-- In double quotes. -/
  | double
  /-- After a backslash in double quotes. -/
  | doubleEscaped
  deriving DecidableEq, Repr

/-- The lexer: its mode, the word that is being read, and the words that are complete, both with
the last item first. -/
structure Lexer where
  mode : Mode
  word : List Char
  words : List (List Char)
  deriving DecidableEq, Repr

/-- The characters between words. -/
def isGap (c : Char) : Bool := c == ' ' || c == '\t' || c == '\n'

/-- The characters that lose a backslash before them in double quotes. -/
def isDoubleSpecial (c : Char) : Bool := c == '$' || c == '\x60' || c == '"' || c == '\\'

namespace Lexer

/-- Before the first character. -/
def start : Lexer := ⟨.gap, [], []⟩

/-- Adds a character to the word, which is read on outside quotes. -/
def push (lexer : Lexer) (c : Char) : Lexer := { lexer with word := c :: lexer.word }

/-- A character of a word outside quotes. -/
def stepPlain (lexer : Lexer) (c : Char) : Lexer :=
  if c = '\'' then { lexer with mode := .single }
  else if c = '"' then { lexer with mode := .double }
  else if c = '\\' then { lexer with mode := .escaped }
  else { lexer.push c with mode := .plain }

/-- Reads one character. -/
def step (lexer : Lexer) (c : Char) : Lexer :=
  match lexer.mode with
  | .gap =>
    if isGap c then lexer
    else if c = '#' then { lexer with mode := .comment }
    else lexer.stepPlain c
  | .comment => if c = '\n' then { lexer with mode := .gap } else lexer
  | .plain =>
    if isGap c then ⟨.gap, [], lexer.word.reverse :: lexer.words⟩ else lexer.stepPlain c
  | .escaped => if c = '\n' then { lexer with mode := .plain } else { lexer.push c with mode := .plain }
  | .single => if c = '\'' then { lexer with mode := .plain } else lexer.push c
  | .double =>
    if c = '"' then { lexer with mode := .plain }
    else if c = '\\' then { lexer with mode := .doubleEscaped }
    else lexer.push c
  | .doubleEscaped =>
    if c = '\n' then { lexer with mode := .double }
    else if isDoubleSpecial c then { lexer.push c with mode := .double }
    else { (lexer.push '\\').push c with mode := .double }

/-- Reads a text. -/
def run (lexer : Lexer) (text : List Char) : Lexer := text.foldl step lexer

/-- The words that were read, unless a quote or a backslash is left open. -/
def finish? (lexer : Lexer) : Option (List (List Char)) :=
  match lexer.mode with
  | .gap | .comment => some lexer.words.reverse
  | .plain => some (lexer.word.reverse :: lexer.words).reverse
  | .escaped | .single | .double | .doubleEscaped => none

theorem run_append (lexer : Lexer) (x y : List Char) :
    lexer.run (x ++ y) = (lexer.run x).run y :=
  List.foldl_append

end Lexer

/-- The words of a text, unless a quote or a backslash is left open. -/
def split? (text : List Char) : Option (List (List Char)) := (Lexer.start.run text).finish?

end Runbook.Word
