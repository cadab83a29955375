import Runbook.Text.Unprintable

/-!
# Quoted texts

A text in double quotes, in which every character can be told.

* `quoted` writes a text; `quotedList` and `quotedPairs` write lists in brackets.
* `escape` says how one character is written: tab, line feed, carriage return, zero, the double quote and
  the backslash by a letter after a backslash, what is not shown by its number, all others as they are.
-/

namespace Runbook.Text

/-- The number of a character in lower-case hexadecimal digits. -/
def hexDigits (c : Char) : List Char := Nat.toDigits 16 c.toNat

/-- The character by its number. -/
def numbered (c : Char) : List Char := ['\\', 'u', '{'] ++ hexDigits c ++ ['}']

/-- A character of a quoted text. -/
def escape (c : Char) : List Char :=
  match c with
  | '\t' => ['\\', 't']
  | '\n' => ['\\', 'n']
  | '\r' => ['\\', 'r']
  | '\x00' => ['\\', '0']
  | '"' => ['\\', '"']
  | '\\' => ['\\', '\\']
  | c =>
    if 0x20 ≤ c.toNat && c.toNat < 0x7F then [c]
    else if isExtender c || isUnprintable c then numbered c
    else [c]

/-- The text in double quotes. -/
def quoted (text : String) : String :=
  String.ofList ('"' :: text.toList.flatMap escape ++ ['"'])

/-- Items in brackets, separated by a comma and a space. -/
def bracketed (items : List String) : String := "[" ++ ", ".intercalate items ++ "]"

/-- A list of texts. -/
def quotedList (texts : List String) : String := bracketed (texts.map quoted)

/-- A list of pairs of texts. -/
def quotedPairs (pairs : List (String × String)) : String :=
  bracketed (pairs.map fun pair => "(" ++ quoted pair.1 ++ ", " ++ quoted pair.2 ++ ")")

end Runbook.Text
