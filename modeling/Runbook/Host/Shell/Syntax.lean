/-!
# Shell commands

The words and the commands of a shell, after its quotes and its operators are understood.

What stands between quotes is a matter of the characters of a word: a character that was quoted is
`Part.escaped`, or stands between two `Part.mark`s.
-/

namespace Runbook.Host.Shell

/-- What is done with a parameter. Where there is a choice, `orEmpty` says that an empty value counts as
none. -/
inductive Operation where
  | value
  /-- The number of octets of the value. -/
  | length
  /-- Another word if there is no value. -/
  | otherwise (orEmpty : Bool)
  /-- Another word if there is a value. -/
  | instead (orEmpty : Bool)
  /-- Another word if there is no value; it becomes the value. -/
  | assign (orEmpty : Bool)
  /-- An error if there is no value. -/
  | demand (orEmpty : Bool)
  /-- The value without what fits a pattern at its start or at its end. -/
  | cutStart (longest : Bool)
  | cutEnd (longest : Bool)
  /-- Nothing that makes sense. -/
  | unknown
  deriving DecidableEq, Repr

/-- How a file is opened for a stream. -/
inductive Direction where
  | read
  | readWrite
  /-- To write from the beginning, unless this would spoil a file that is to be kept. -/
  | write
  /-- To write from the beginning in any case. -/
  | overwrite
  | append
  deriving DecidableEq, Repr

mutual

/-- A part of a word. -/
inductive Part where
  | char (c : Char)
  /-- A character that stands for itself. -/
  | escaped (c : Char)
  /-- Quotes begin or end. -/
  | mark
  | parameter (name : String) (operation : Operation) (word : List Part)
  /-- The value of an expression. -/
  | arithmetic (expression : List Part)
  /-- What a command prints. -/
  | output (command : Command)

/-- What a stream becomes. -/
inductive Redirection where
  | file (stream : Nat) (direction : Direction) (path : List Part)
  /-- What another stream is; without one the stream is closed. -/
  | copy (stream : Nat) (other : Option Nat)
  /-- What the stream is that a word names. -/
  | copyNamed (stream : Nat) (word : List Part)
  /-- A text that was read after the command, by its index. -/
  | document (stream : Nat) (index : Nat)

/-- Patterns and a command for texts that fit one of them. -/
inductive Branch where
  | mk (patterns : List (List Part)) (body : Command)

/-- A command, with the number of its line where one is told. -/
inductive Command where
  | nothing
  | simple (line : Nat) (assignments words : List (List Part)) (redirections : List Redirection)
  | redirected (line : Nat) (command : Command) (redirections : List Redirection)
  /-- Commands of which each reads what the one before prints. -/
  | pipeline (inBackground : Bool) (commands : List Command)
  | inBackground (line : Nat) (command : Command) (redirections : List Redirection)
  | subshell (line : Nat) (command : Command) (redirections : List Redirection)
  | sequence (first second : Command)
  /-- The second only if the first succeeds. -/
  | andThen (first second : Command)
  /-- The second only if the first fails. -/
  | orElse (first second : Command)
  | negated (command : Command)
  | choice (condition yes no : Command)
  /-- As long as the condition succeeds, or until it does. -/
  | loop (until' : Bool) (condition body : Command)
  /-- Once for each word. -/
  | each (line : Nat) (name : String) (words : List (List Part)) (body : Command)
  /-- The first branch that fits a word. -/
  | select (line : Nat) (word : List Part) (branches : List Branch)
  /-- A name is given to a command from now on. -/
  | define (line : Nat) (name : String) (body : Command)

end

/-- The parts of a word. -/
abbrev Word := List Part

instance : Inhabited Part := ⟨.mark⟩

instance : Inhabited Command := ⟨.nothing⟩

/-- A text that stands after a command and is given to it as its input. -/
structure Document where
  /-- Parameters and commands in the text are expanded. -/
  expands : Bool
  body : Word

namespace Command

/-- There is nothing to be done. -/
def isNothing : Command → Bool
  | nothing => true
  | _ => false

end Command

/-! ## Names -/

/-- A character that may start the name of a variable. -/
def startsName (c : Char) : Bool := c.isAlpha || c == '_'

/-- A character that may stand in the name of a variable. -/
def inName (c : Char) : Bool := c.isAlphanum || c == '_'

/-- The text is the name of a variable. -/
def isName (text : List Char) : Bool := text.head?.any startsName && text.all inName

/-- Parameters whose name is one special character. -/
def isSpecialParameter (c : Char) : Bool := c.isDigit || "#@*-?!$".toList.contains c

/-- The text of a word without expansions and without quotes. -/
def plainText? : Word → Option (List Char)
  | [] => some []
  | .char c :: rest => (plainText? rest).map (c :: ·)
  | _ :: _ => none

/-- The name at the start of a word that an equals sign follows, and what comes after that sign. -/
def assignment? : Word → Option (List Char × Word) := go []
where
  /-- The name so far is reversed. -/
  go (name : List Char) : Word → Option (List Char × Word)
    | .char c :: rest =>
      if c = '=' then (if name.isEmpty then none else some (name.reverse, rest))
      else if inName c && !(name.isEmpty && c.isDigit) then go (c :: name) rest
      else none
    | _ => none

end Runbook.Host.Shell
