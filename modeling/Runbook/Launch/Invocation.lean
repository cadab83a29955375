import Runbook.Json.Value
import Runbook.Text.Quoted
import Runbook.Word

/-!
# Invocations

What is launched for one line: a list of words, the first of which is the program, or one line for a
shell to read.
-/

namespace Runbook

/-- What a launcher is given for one line. -/
inductive Invocation where
  /-- A program and its arguments. -/
  | argv (words : List String)
  /-- A line for a shell. -/
  | shell (line : String)
  deriving DecidableEq, Repr

namespace Invocation

/-- The program, as messages name it: the first word, or the whole line for a shell. -/
def program : Invocation → String
  | argv words => words.head?.getD ""
  | shell line => line

/-- A shell is to read it. -/
def isShell : Invocation → Bool
  | argv _ => false
  | shell _ => true

/-- A line that a shell reads as this invocation. Words that cannot be quoted stand as they are. -/
def command : Invocation → String
  | argv words => (Word.toLine words).toOption.getD (" ".intercalate words)
  | shell line => line

/-- The invocation with its form. -/
def describe : Invocation → String
  | argv words => "Argv(" ++ Text.quotedList words ++ ")"
  | shell line => "Shell(" ++ Text.quoted line ++ ")"

/-- The invocation as a list of texts, or as a text. -/
def toJson : Invocation → Json
  | argv words => Json.ofTexts words
  | shell line => Json.ofText line

end Invocation

end Runbook
