import Runbook.Host.Utility.Concatenation

/-!
# Counting

Lines, words, characters and octets of files, and the width of the longest line. The columns are as wide
as the sizes of the files may need; if there is one whose size is not known, they have seven places.
-/

namespace Runbook.Host.Utility

/-- What is counted. -/
structure Counts where
  lines : Nat := 0
  words : Nat := 0
  chars : Nat := 0
  octets : Nat := 0
  /-- The number of columns of the longest line. -/
  longest : Nat := 0

namespace Counts

/-- Counts of two files together. -/
def add (a b : Counts) : Counts where
  lines := a.lines + b.lines
  words := a.words + b.words
  chars := a.chars + b.chars
  octets := a.octets + b.octets
  longest := max a.longest b.longest

/-- A blank between words. -/
def separates (c : Char) : Bool :=
  c == ' ' || ('\t' ≤ c && c ≤ '\r') || (Glyph.isPrinted c && (Glyph.isBlank c || Glyph.isFirmSpace c))

/-- How far counting has come: the counts, whether it is within a word, and the column. -/
abbrev Progress := Counts × Bool × Nat

/-- Counts a character with its columns. -/
def countChar (columns : Nat) (c : Char) : Progress → Progress
  | (counts, inWord, column) =>
    let ended (counts : Counts) : Counts :=
      if inWord then { counts with words := counts.words + 1 } else counts
    let widest (counts : Counts) (column : Nat) : Counts :=
      { counts with longest := max counts.longest column }
    match c with
    | '\n' => (widest (ended { counts with lines := counts.lines + 1 }) column, false, 0)
    | '\r' | '\x0c' => (widest (ended counts) column, false, 0)
    | '\t' => (ended counts, false, column + (8 - column % 8))
    | ' ' => (ended counts, false, column + 1)
    | '\x0b' => (ended counts, false, column)
    | c =>
      if !Glyph.isPrinted c then (counts, inWord, column)
      else if separates c then (ended counts, false, column + columns)
      else (counts, true, column + columns)

/-- Counts a glyph. -/
def countGlyph (wide : Bool) (progress : Progress) (glyph : Glyph) : Progress :=
  let (counts, state) := progress
  let isChar := !wide || glyph.char.isSome
  let counts := { counts with
    chars := counts.chars + (if isChar then 1 else 0)
    octets := counts.octets + glyph.octets.length }
  match glyph.char with
  | some c => countChar glyph.columns c (counts, state)
  | none => (counts, state)

/-- The counts of octets. -/
def ofText (wide : Bool) (text : String) : Counts :=
  let (counts, inWord, column) :=
    (Glyph.ofText wide text).foldl (countGlyph wide) ({}, false, 0)
  { counts with
    words := counts.words + (if inWord then 1 else 0)
    longest := max counts.longest column }

/-- The counts that are asked for, in a fixed order. -/
def chosen (arguments : Arguments) (counts : Counts) : List Nat :=
  let isDefault := !arguments.has ["l", "w", "m", "c", "L"]
  let when' (isWanted : Bool) (n : Nat) : List Nat := if isWanted then [n] else []
  when' (isDefault || arguments.has ["l"]) counts.lines ++
    when' (isDefault || arguments.has ["w"]) counts.words ++
    when' (arguments.has ["m"]) counts.chars ++
    when' (isDefault || arguments.has ["c"]) counts.octets ++
    when' (arguments.has ["L"]) counts.longest

end Counts

/-! ## Columns -/

/-- What is known of a file before it is read: the size of a regular file, none for others; nothing if
there is no such file. -/
def sizeOf? (path : String) : Act (Option (Option Nat)) :=
  Act.look fun number machine =>
    let size (node : Node) : Option Nat := match node.content with
      | .file octets => some octets.length
      | .program _ => some 0
      | _ => none
    if path = "-" then
      (machine.opened? number 0).map fun opened =>
        match opened.2.target with
        | .node node => size (machine.files.node node)
        | .pipe _ => none
    else (machine.files.status (machine.directory number) path).toOption.map fun found => size found.2

/-- The width of columns for files. -/
def columnWidth (sizes : List (Option (Option Nat))) : Nat :=
  let known := sizes.filterMap id
  let total := (known.filterMap id).foldl (· + ·) 0
  max (toString total).length (if known.any Option.isNone then 7 else 1)

/-- Counts in columns, with the name of a file if there is one. -/
def countLine (wide : Bool) (width : Nat) (numbers : List Nat) (name : Option String) : String :=
  let column (n : Nat) : String :=
    let digits := toString n
    String.ofList (List.replicate (width - digits.length) ' ') ++ digits
  let shown (name : String) : String :=
    if name.toList.contains '\n' then Quotation.withColon wide name else name
  " ".intercalate (numbers.map column) ++ (name.map (" " ++ shown ·)).getD "" ++ "\n"

/-! ## Names -/

/-- The files that are counted. -/
structure Names where
  /-- The file that holds the names. -/
  origin : Option String := none
  names : List String
  /-- The names are known before anything is counted, so that columns can be as wide as they must. -/
  isKnown : Bool := true
  /-- Not all names could be read. -/
  isCut : Bool := false

/-- The names in a text, each but perhaps the last one with the character zero after it. -/
def namesIn (text : String) : List String :=
  let pieces := (cutAt '\x00' text.toList).map String.ofList
  if pieces.getLast? = some "" then pieces.dropLast else pieces

/-- An open file is one with octets. -/
def isRegular (descriptor : Nat) : Act Bool :=
  Act.look fun number machine => (machine.opened? number descriptor).any fun (_, opened) =>
    match opened.target with
    | .node node => (machine.files.node node).isRegular
    | .pipe _ => false

/-- The names that a file holds. -/
def readNames (job : Job) (origin : String) : Act (Except Fault Names) := do
  let descriptor := if origin = "-" then 0 else Act.fileDescriptor
  let opened ← if origin = "-" then pure (.ok ()) else Act.openAt descriptor origin .reading
  match opened with
  | .error refusal =>
    let name := Quotation.always job.isWide origin
    return .error { text := "cannot open " ++ name ++ " for reading: " ++ refusal.text }
  | .ok () =>
    let isKnown ← isRegular descriptor
    match ← Act.readAll descriptor with
    | .ok text => return .ok { origin := some origin, names := namesIn text, isKnown }
    | .error refusal =>
      warn job (Quotation.withColon job.isWide origin ++ ": read error: " ++ refusal.text)
      return .ok { origin := some origin, names := [], isCut := true }

/-- The files that arguments name. -/
def namesOf (job : Job) (arguments : Arguments) : Act (Except Fault Names) := do
  match arguments.value? ["from"], arguments.operands with
  | none, operands => return .ok { names := operands }
  | some origin, [] => readNames job origin
  | some _, operand :: _ => return .error {
      text := "extra operand " ++ Quotation.always job.isWide operand ++
        "\nfile operands cannot be combined with --files0-from"
      refers := true }

/-- Why the file with a name, of which there were some before, is not counted. -/
def nameFault? (job : Job) (names : Names) (before : Nat) (name : String) : Option String :=
  if names.origin = some "-" && name = "-" then
    some ("when reading file names from stdin, no file name of " ++ Quotation.always job.isWide name ++
      " allowed")
  else if name.isEmpty then
    let place := match names.origin with
      | some origin => Quotation.withColon job.isWide origin ++ ":" ++ toString (before + 1) ++ ": "
      | none => ""
    some (place ++ "invalid zero-length file name")
  else none

/-! ## Counting -/

/-- Counts what is in a file; nothing if it cannot be opened. The second part tells that all went well. -/
def countFile (job : Job) (path : String) (shown : String) : Act (Option Counts × Bool) := do
  let descriptor := if path = "-" then 0 else Act.fileDescriptor
  let opened ← if path = "-" then pure (.ok ()) else Act.openAt descriptor path .reading
  match opened with
  | .error refusal =>
    warn job (Quotation.withColon job.isWide path ++ ": " ++ refusal.text)
    return (none, false)
  | .ok () =>
    match ← Act.readAll descriptor with
    | .ok text => return (some (Counts.ofText job.isWide text), true)
    | .error refusal =>
      warn job (shown ++ ": " ++ refusal.text)
      return (some {}, false)

/-- Counts what is in files, one after the other: what there is in all of them, and whether all went
well. -/
def countAll (job : Job) (arguments : Arguments) (names : Names) (width : Nat) (isShown : Bool) :
    Nat → Counts → List String → Act (Counts × Bool)
  | _, sum, [] => return (sum, true)
  | before, sum, name :: rest => do
    match nameFault? job names before name with
    | some fault =>
      warn job fault
      let (sum, _) ← countAll job arguments names width isShown (before + 1) sum rest
      return (sum, false)
    | none =>
      let (counts, isFine) ← countFile job name (Quotation.withColon job.isWide name)
      let status ← match counts.filter fun _ => isShown with
        | some counts => print job (countLine job.isWide width (counts.chosen arguments) (some name)) 0
        | none => pure 0
      let (sum, others) ←
        countAll job arguments names width isShown (before + 1) (sum.add (counts.getD {})) rest
      return (sum, isFine && others && status = 0)

/-- Counts what is in files. -/
def wc : Job → Act Nat :=
  withOptions (.of "clmwL" "" [("bytes", "c"), ("chars", "m"), ("lines", "l"), ("words", "w"),
      ("max-line-length", "L")] [("total", .required, "total"), ("files0-from", .required, "from")]) 1
    fun job arguments => do
  let wide := job.isWide
  match chooseWord wide "--total" [["auto"], ["always"], ["only"], ["never"]]
      ((arguments.value? ["total"]).getD "auto") with
  | .error fault => misuse job fault 1
  | .ok total =>
    match ← namesOf job arguments with
    | .error fault => complain job fault
    | .ok names =>
      let isStream := names.origin.isNone && names.names.isEmpty
      let paths := if isStream then ["-"] else names.names
      let columns := (Counts.chosen arguments {}).length
      let sizes ← paths.mapM sizeOf?
      let isNarrow := total = "only" || !names.isKnown || (paths.length = 1 && columns = 1)
      let width := if isNarrow then 1 else columnWidth sizes
      let isShown := total != "only"
      let (sum, isFine) ←
        if isStream then
          let (counts, isFine) ← countFile job "-" "standard input"
          let counts := counts.getD {}
          let status ← if isShown then print job (countLine wide width (counts.chosen arguments) none) 0
            else pure 0
          pure (counts, isFine && status = 0)
        else countAll job arguments names width isShown 0 {} paths
      let isWanted := total = "always" || total = "only" || (total = "auto" && 1 < paths.length)
      let name := if total = "only" then none else some "total"
      let status ← if isWanted then print job (countLine wide width (sum.chosen arguments) name) 0
        else pure 0
      return if isFine && status = 0 && !names.isCut then 0 else 1

end Runbook.Host.Utility
