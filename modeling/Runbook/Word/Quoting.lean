/-!
# Quoting words

Words written so that a shell reads the same words back.

* A word is cut into *chunks*: each takes the longest part for which one of the three styles of
  quoting allows all characters, and is written in the first style of plain, single quotes and
  double quotes that does.
* A caret is allowed at the start of a chunk only, in single quotes.
* No word with the character zero can be written.
-/

namespace Runbook.Word

/-- Which styles of quoting allow all characters of a chunk. -/
structure Styles where
  plain : Bool
  single : Bool
  double : Bool
  deriving DecidableEq, Repr

/-- Characters that need no quotes. -/
def allowsPlain (c : Char) : Bool := c.isAlphanum || "+-./:@]_".toList.contains c

/-- Characters allowed in single quotes. -/
def allowsSingle (c : Char) : Bool := c != '\'' && c != '^' && c != '\\'

/-- Characters allowed in double quotes, some of them after a backslash. -/
def allowsDouble (c : Char) : Bool := c != '\x60' && c != '$' && c != '!' && c != '^'

namespace Styles

/-- The styles that allow the character too. -/
def narrow (styles : Styles) (c : Char) : Styles :=
  ⟨styles.plain && allowsPlain c, styles.single && allowsSingle c, styles.double && allowsDouble c⟩

/-- Some style is left. -/
def any (styles : Styles) : Bool := styles.plain || styles.single || styles.double

/-- The styles of a chunk that starts with the character. -/
def opening (c : Char) : Styles :=
  if c = '^' then ⟨false, true, false⟩ else narrow ⟨true, true, true⟩ c

end Styles

/-- The chunks of a text with the styles that allow them. `chunk` is the chunk read so far, the last
character first, and `styles` are its styles. -/
def chunks (styles : Styles) (chunk : List Char) : List Char → List (Styles × List Char)
  | [] => [(styles, chunk.reverse)]
  | c :: rest =>
    if (styles.narrow c).any then chunks (styles.narrow c) (c :: chunk) rest
    else (styles, chunk.reverse) :: chunks (Styles.opening c) [c] rest

/-- A character in double quotes. -/
def quoteDouble (c : Char) : List Char := if c = '"' ∨ c = '\\' then ['\\', c] else [c]

/-- A chunk in the first of its styles. -/
def quoteChunk (chunk : Styles × List Char) : List Char :=
  if chunk.1.plain then chunk.2
  else if chunk.1.single then '\'' :: chunk.2 ++ ['\'']
  else '"' :: chunk.2.flatMap quoteDouble ++ ['"']

/-- One word. -/
def quote : List Char → List Char
  | [] => ['\'', '\'']
  | c :: rest => (chunks (Styles.opening c) [c] rest).flatMap quoteChunk

/-- Words written one after the other, separated by a space, unless one holds the character zero. -/
def join? (words : List (List Char)) : Option (List Char) :=
  if words.any (·.contains '\x00') then none else some ([' '].intercalate (words.map quote))

end Runbook.Word
