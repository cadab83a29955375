import Runbook.Host.Shell.Pattern
import Runbook.Host.Utility.Calendar
import Runbook.Host.Utility.Columns
import Runbook.Host.Utility.Listing.Wish
import Runbook.Host.Utility.VersionOrder

/-!
# Listing files

The names of files, and what is in directories.

* `Listing.ofDirectory` gives what is listed of a directory.
* `Listing.text` writes entries in lines or in columns.
-/

namespace Runbook.Host.Utility

namespace Listing

/-! ## Entries -/

/-- A file with the name under which it is listed. -/
structure Entry where
  name : String
  node : Node
  number : Nat
  location : Location
  /-- The directory was asked for, so that what is in it is listed. -/
  isOpened : Bool := false

/-- The name fits one of some patterns; a point at its start must be there in the pattern. -/
def fitsAny (patterns : List String) (name : String) : Bool :=
  patterns.any fun pattern =>
    (name.toList.head? != some '.' || pattern.toList.head? == some '.') &&
      Shell.Glob.fits (Shell.Glob.ofText pattern.toList) name.toList

/-- The name is left out. -/
def isLeftOut (wish : Wish) (name : String) : Bool :=
  let isUsual := wish.hidden = .usual
  (name.toList.head? == some '.' &&
      (isUsual || (wish.hidden = .almostAll && (name == "." || name == "..")))) ||
    (isUsual && fitsAny wish.hiddenPatterns name) || fitsAny wish.ignored name

/-- The file of an operand, or why there is none. -/
def ofOperand (wish : Wish) (files : Files) (directory : Location) (path : String) :
    Except Refusal Entry := do
  let found (follows : Bool) : Except Refusal Entry := do
    let (location, number) ← files.find directory path follows
    let node := files.node number
    return ⟨path, node, number, location, node.isDirectory && !wish.directoriesAsFiles⟩
  match wish.followOrUsual with
  | .never => found false
  | .operands | .always => found true
  | .directories =>
    match found true with
    | .ok entry => if entry.node.isDirectory then return entry else found false
    | .error _ => found false

/-- What is in a directory, without what is left out. -/
def ofDirectory (wish : Wish) (files : Files) (location : Location) : List Entry :=
  let entry (name : String) (location : Location) (number : Nat) : Entry :=
    ⟨name, files.node number, number, location, false⟩
  let dots := [(".", location), ("..", location.dropLast)].map fun (name, location) =>
    entry name location ((files.number? location).getD 0)
  let inside := (files.entries location).map fun (name, number) =>
    let place := location ++ [name]
    let target := if wish.follow = some .always then (files.find location name true).toOption else none
    match target with
    | some (place, number) => entry name place number
    | none => entry name place number
  (dots ++ inside).filter fun entry => !isLeftOut wish entry.name

/-- The number of columns of a name. -/
def displayWidth (wide : Bool) (text : String) : Nat :=
  ((Glyph.ofText wide text).map fun glyph =>
    if glyph.isGraphic then (if wide then glyph.columns else 1)
    else if glyph.char.any fun c => c.toNat < 32 || c.toNat = 127 then 0
    else 1).foldl (· + ·) 0

/-- What comes after the last point of a name, with the point. -/
def extension (name : String) : String :=
  let after := (name.toList.reverse.takeWhile (· != '.')).reverse
  if after.length = name.length then "" else String.ofList ('.' :: after)

/-- Compares two entries. -/
def compareEntries (wide : Bool) (order : Order) (a b : Entry) : Ordering :=
  let byName := compare a.name b.name
  match order with
  | .name | .none => byName
  | .size => (compare b.node.size a.node.size).then byName
  | .extension => (compare (extension a.name) (extension b.name)).then byName
  | .version => (VersionOrder.compareNames a.name b.name).then byName
  | .time => (compare b.node.changed a.node.changed).then byName
  | .width => (compare (displayWidth wide a.name) (displayWidth wide b.name)).then byName

/-- Entries in their order. -/
def sorted (wide : Bool) (wish : Wish) (entries : List Entry) : List Entry :=
  let order := wish.orderOrUsual
  if order = .none then entries
  else
    entries.mergeSort fun a b =>
      if wish.directoriesFirst && a.node.isDirectory != b.node.isDirectory then a.node.isDirectory
      else if wish.reverse then (compareEntries wide order b a).isLE
      else (compareEntries wide order a b).isLE

/-! ## Names -/

/-- The name is written otherwise in a style of which quotes are a part if they are needed. -/
def isQuoted (wide : Bool) (style : Style) (name : String) : Bool :=
  match style with
  | .shell | .shellEscape => Quotation.needsQuotes (Glyph.ofText wide name)
  | .doubledIfNeeded => Quotation.doubled wide name != "\"" ++ name ++ "\""
  | _ => false

/-- A name in a style. -/
def written (wide : Bool) (wish : Wish) (name : String) : String :=
  let masked (text : String) : String := if wish.masks then Quotation.masked wide text else text
  match wish.style with
  | .literal => masked name
  | .shell =>
    if Quotation.needsQuotes (Glyph.ofText wide name) then masked (Quotation.plainQuotes name)
    else name
  | .shellAlways => masked (Quotation.plainQuotes name)
  | .shellEscape => Quotation.ifNeeded wide name
  | .shellEscapeAlways => Quotation.always wide name
  | .doubled => Quotation.doubled wide name
  | .doubledIfNeeded => if isQuoted wide .doubledIfNeeded name then Quotation.doubled wide name else name
  | .escaped => Quotation.escaped wide [' '] name
  | .marked => Quotation.marked wide name

/-- The name of a directory above what is in it. -/
def heading (wide : Bool) (wish : Wish) (name : String) : String :=
  match wish.style with
  | .shellEscape => Quotation.withColon wide name
  | .shell => if name.toList.contains ':' then Quotation.plainQuotes name else written wide wish name
  | .escaped => Quotation.escaped wide [':'] name
  | _ => written wide wish name

/-- The sign after a name. -/
def sign (mark : Mark) (node : Node) : String :=
  if node.isRegular then (if mark = .all && node.isExecutable then "*" else "")
  else if node.isDirectory then (if mark = .none then "" else "/")
  else if node.isLink then (if mark = .all || mark = .kind then "@" else "")
  else ""

/-! ## Sizes -/

/-- The size of the blocks of a file. -/
def blockLength : Nat := 4096

/-- What a file takes, in octets. -/
def allocated (node : Node) : Nat :=
  if node.isRegular || node.isDirectory then
    (node.size + blockLength - 1) / blockLength * blockLength
  else 0

/-- A size with a letter, rounded up. The first argument is the number of letters that are left. -/
def readable (base : Nat) : List String → Nat → Nat → String
  | [], _, size => toString size
  | letter :: rest, unit, size =>
    if size < unit * base && unit = 1 then toString size
    else
      let tenths := (size * 10 + unit - 1) / unit
      let whole := (size + unit - 1) / unit
      if tenths < 100 then toString (tenths / 10) ++ "." ++ toString (tenths % 10) ++ letter
      else if whole < base then toString whole ++ letter
      else readable base rest (unit * base) size

/-- A size as it is asked for. -/
def scaled (scale : Scale) (size : Nat) : String :=
  match scale with
  | .units unit sign => toString ((size + unit - 1) / unit) ++ sign
  | .readable base =>
    let letters := if base = 1000 then ["k", "M", "G", "T"] else ["K", "M", "G", "T"]
    if size < base then toString size else readable base letters base size

/-- What a file takes, as it is asked for. -/
def blocksText (wish : Wish) (octets : Nat) : String :=
  scaled (wish.blockScale.getD (.units 1024 "")) octets

/-- A text with blanks before it. -/
def right (width : Nat) (text : String) : String :=
  String.ofList (List.replicate (width - text.length) ' ') ++ text

/-- A text with blanks after it. -/
def left (width : Nat) (text : String) : String :=
  text ++ String.ofList (List.replicate (width - text.length) ' ')

/-- The largest length of some texts. -/
def largest (texts : List String) : Nat := (texts.map String.length).foldl max 0

/-! ## The long layout -/

/-- What may be done with a file, by letters. -/
def modeText (node : Node) : String :=
  let kind := if node.isDirectory then "d" else if node.isLink then "l"
    else if node.isDevice then "c" else "-"
  let letters (n : Nat) : String :=
    (if n &&& 4 != 0 then "r" else "-") ++ (if n &&& 2 != 0 then "w" else "-") ++
      (if n &&& 1 != 0 then "x" else "-")
  let others := letters (node.mode % 8)
  let others := if node.mode &&& 0o1000 = 0 then others
    else String.ofList (others.toList.take 2) ++ (if node.mode &&& 1 != 0 then "t" else "T")
  kind ++ letters (node.mode / 64 % 8) ++ letters (node.mode / 8 % 8) ++ others

/-- The number of names of a file; a directory has one more in each directory that it holds. -/
def nameCount (files : Files) (entry : Entry) : Nat :=
  if entry.node.isDirectory then
    2 + ((files.entries entry.location).filter fun inside => (files.node inside.2).isDirectory).length
  else max 1 (files.nameCount entry.number)

/-- The time after which the hour of a change is not told any more, in nanoseconds. -/
def recentTime : Int := 15778476 * Calendar.second

/-- The time of a change. -/
def timeText (wish : Wish) (now : Int) (time : Int) : String :=
  let isRecent := now - recentTime < time && time < now
  let byAge (old new : String) : String := if isRecent then new else old
  let format := match wish.timeFormat with
    | some "full-iso" => "%Y-%m-%d %H:%M:%S.%N %z"
    | some "long-iso" => "%Y-%m-%d %H:%M"
    | some "iso" => byAge "%Y-%m-%d " "%m-%d %H:%M"
    | some text =>
      if text.toList.head? = some '+' then String.ofList text.toList.tail
      else byAge "%b %e  %Y" "%b %e %H:%M"
    | none => byAge "%b %e  %Y" "%b %e %H:%M"
  Calendar.format (Calendar.ofTime time) format.toList

/-- The entries with all that is told of them. -/
def longLines (wide : Bool) (wish : Wish) (files : Files) (now : Int) (entries : List Entry) :
    List String :=
  let column (align : Nat → String → String) (texts : List String) : List String :=
    texts.map (align (largest texts))
  let owner := if wish.numeric then "0" else "root"
  let sizes := entries.map fun entry => scaled (wish.scale.getD (.units 1 "")) entry.node.size
  let counts := entries.map fun entry => toString (nameCount files entry)
  let sizes := column right sizes
  let counts := column right counts
  let isPadded := entries.any fun entry => isQuoted wide wish.style entry.name
  let line (entry : Entry) (count size : String) : String :=
    let people := (if wish.owner then [owner] else []) ++ (if wish.group then [owner] else []) ++
      (if wish.author then [owner] else []) ++ (if wish.context then ["?"] else [])
    let target := match entry.node.content with
      | .link target => " -> " ++ written wide wish target
      | _ => ""
    let blank := if isPadded && !isQuoted wide wish.style entry.name then " " else ""
    " ".intercalate ([modeText entry.node, count] ++ people ++
      [size, timeText wish now entry.node.changed, blank ++ written wide wish entry.name]) ++
      target ++ (if target.isEmpty then sign wish.mark entry.node else "")
  (entries.zip (counts.zip sizes)).map fun (entry, count, size) => line entry count size

/-! ## Texts -/

/-- The number of a node as it is told. -/
def numberText (entry : Entry) : String := toString (1000000 + entry.number)

/-- What is told of entries before all else, in columns if that is asked for: the numbers of their nodes,
and what they take. -/
def beginnings (wish : Wish) (aligned : Bool) (entries : List Entry) : List String :=
  let column (texts : List String) : List String :=
    if aligned then texts.map (right (largest texts)) else texts
  let numbers := column (entries.map numberText)
  let blocks := column (entries.map fun entry => blocksText wish (allocated entry.node))
  (numbers.zip blocks).map fun (number, size) =>
    (if wish.numbers then number ++ " " else "") ++ (if wish.blocks then size ++ " " else "")

/-- The texts of entries and their widths. -/
def items (wide : Bool) (wish : Wish) (entries : List Entry) : List Columns.Item :=
  let beginnings := beginnings wish (wish.layoutOrUsual != .commas) entries
  let aligns := (wish.layoutOrUsual = .columns || wish.layoutOrUsual = .across) && wish.width != 0
  let isPadded := aligns && entries.any fun entry => isQuoted wide wish.style entry.name
  (entries.zip beginnings).map fun (entry, beginning) =>
    let before := beginning ++ (if wish.context then "? " else "")
    let blank := if isPadded && !isQuoted wide wish.style entry.name then " " else ""
    let name := written wide wish entry.name
    let after := sign wish.mark entry.node
    ⟨before ++ blank ++ name ++ after,
      before.length + blank.length + displayWidth wide name + after.length⟩

/-- Entries as they are listed. -/
def text (wide : Bool) (wish : Wish) (files : Files) (now : Int) (entries : List Entry) : String :=
  let ended (lines : List String) : String := String.join (lines.map (· ++ wish.newline))
  let items := items wide wish entries
  if entries.isEmpty then ""
  else
    match wish.layoutOrUsual with
    | .lines => ended (items.map (·.text))
    | .long =>
      let lines := longLines wide wish files now entries
      ended (((beginnings wish true entries).zip lines).map fun (before, line) => before ++ line)
    | .commas =>
      let width := if wish.width = 0 then none else some wish.width
      Columns.separated "," wish.newline width 0 items ++ wish.newline
    | layout =>
      if wish.width = 0 then
        Columns.separated " " wish.newline none 0 items ++ wish.newline
      else ended (Columns.lines (layout = .columns) wish.tab wish.width items)

/-- What all entries take together. -/
def total (wish : Wish) (entries : List Entry) : String :=
  if wish.blocks || wish.layoutOrUsual = .long then
    "total " ++ blocksText wish ((entries.map fun entry => allocated entry.node).foldl (· + ·) 0) ++
      wish.newline
  else ""

/-- A name in a directory as a path. -/
def pathIn (directory name : String) : String :=
  if directory.toList.getLast? = some '/' then directory ++ name else directory ++ "/" ++ name

/-- What is in directories, each under its name if that is asked for, and then what is in the directories
in them. The first argument bounds the number of directories. -/
def directoriesText (wide : Bool) (wish : Wish) (files : Files) (now : Int) :
    Nat → Bool → Bool → List (String × Location) → String
  | 0, _, _, _ | _, _, _, [] => ""
  | steps + 1, named, isFirst, (name, location) :: rest =>
    let entries := sorted wide wish (ofDirectory wish files location)
    let inside := if wish.recursive then entries.filter fun entry =>
        entry.node.isDirectory && entry.name != "." && entry.name != ".." else []
    let above := if named || wish.recursive then
        (if isFirst then "" else "\n") ++ heading wide wish name ++ ":\n" else ""
    above ++ total wish entries ++ text wide wish files now entries ++
      directoriesText wide wish files now steps true (isFirst && above.isEmpty)
        (inside.map (fun entry => (pathIn name entry.name, entry.location)) ++ rest)

/-- A bound for the number of directories. -/
def directoryLimit : Nat := 1000000

end Listing

open Listing in
/-- Lists files, and what is in directories. -/
def ls : Job → Act Nat := withOptions known 2 fun job arguments => do
  let wide := job.isWide
  match Wish.ofJob job arguments.options with
  | .error fault => complain job fault
  | .ok (wish, warnings) =>
    warnings.forM (warn job)
    let files ← Act.files
    let directory ← Act.directory
    let now ← Act.look fun _ machine => machine.now
    let mut found := []
    let mut status := 0
    for path in if arguments.operands.isEmpty then ["."] else arguments.operands do
      match ofOperand wish files directory path with
      | .ok entry => found := found ++ [entry]
      | .error refusal =>
        warn job ("cannot access " ++ Quotation.always wide path ++ ": " ++ refusal.text)
        status := 2
    let entries := sorted wide wish found
    let plain := entries.filter fun entry => !entry.isOpened
    let opened := (entries.filter (·.isOpened)).map fun entry => (entry.name, entry.location)
    let named := !(plain.isEmpty && arguments.operands.length ≤ 1 && opened.length = 1)
    let before := text wide wish files now plain
    let between := if plain.isEmpty || opened.isEmpty then "" else "\n"
    printWith job (before ++ between ++
      directoriesText wide wish files now directoryLimit named true opened) status 2

end Runbook.Host.Utility
