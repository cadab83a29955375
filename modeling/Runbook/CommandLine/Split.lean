import Runbook.CommandLine.Setup
import Runbook.Json.Printer
import Runbook.Line.Splitter

/-!
# Showing how a block is split

The logical lines with their words. The block is split first. As text the lines are written one by
one, up to the first that gives no words; as JSON all of them are written, or none.
-/

namespace Runbook.CommandLine

/-- The words of a logical line. -/
def wordsOf (line : String) : Except Error (List String) := (Word.ofLine line).mapError (.words line)

/-- A number in at least three places. -/
def place (n : Nat) : String :=
  let digits := toString n
  String.ofList (List.replicate (3 - digits.length) ' ') ++ digits

/-- A logical line with its words. -/
def entryText (number : Nat) (line : String) (words : List String) : String :=
  place number ++ ": " ++ line ++ "\n     " ++
    (if words.isEmpty then "(comment only)" else Text.quotedList words) ++ "\n"

/-- Logical lines with their words as text, up to the first that gives no words. -/
def entriesText (number : Nat) : List String → String × Except Error Unit
  | [] => ("", .ok ())
  | line :: rest =>
    match wordsOf line with
    | .error error => ("", .error error)
    | .ok words =>
      let (text, result) := entriesText (number + 1) rest
      (entryText number line words ++ text, result)

/-- A logical line with its words, as an object. -/
def entryJson (line : String) (words : List String) : Json :=
  .ofMembers [("line", Json.ofText line), ("tokens", Json.ofTexts words)]

/-- Logical lines with their words. -/
def entries (lines : List String) : Except Error (List (String × List String)) :=
  collect (lines.map fun line => do return (line, ← wordsOf line))

/-- Writes how a block is split. -/
def splitBlock (json : Bool) (source : String) (block : Block) : Except Fault Int × Streams :=
  match block.logicalLines with
  | .error error => (.error (.during ("Failed to split " ++ source) (.error error)), .silent)
  | .ok lines =>
    if json then
      match entries lines with
      | .error error => (.error (.bare error), .silent)
      | .ok entries =>
        let value := Json.array (entries.map fun entry => entryJson entry.1 entry.2)
        (.ok 0, .printed (String.ofList (Json.pretty value) ++ "\n"))
    else
      let (text, result) := entriesText 1 lines
      match result with
      | .error error => (.error (.bare error), .printed text)
      | .ok () => (.ok 0, .printed text)

end Runbook.CommandLine
