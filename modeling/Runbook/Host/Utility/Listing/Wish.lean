import Runbook.Host.Utility.Numeral
import Runbook.Host.Utility.Options

/-!
# What is asked for when files are listed

Options and variables say which names are left out, in which order the others come, how they are
written, and what is told of the files besides. `Wish.ofJob` takes them in, the options one after the
other.
-/

namespace Runbook.Host.Utility.Listing

/-- How entries are laid out. -/
inductive Layout where
  | lines
  | columns
  | across
  | commas
  | long
  deriving DecidableEq

/-- The order of entries. -/
inductive Order where
  | name
  | none
  | size
  | extension
  | version
  | time
  | width
  deriving DecidableEq

/-- What is told of the kind of a file after its name. -/
inductive Mark where
  | none
  | slash
  | kind
  | all
  deriving DecidableEq

/-- How names are written. -/
inductive Style where
  | literal
  | shell
  | shellAlways
  | shellEscape
  | shellEscapeAlways
  | doubled
  | doubledIfNeeded
  | escaped
  | marked
  deriving DecidableEq

/-- Which links are followed. -/
inductive Follow where
  | never
  /-- Those among the operands that lead to directories. -/
  | directories
  /-- Those among the operands. -/
  | operands
  | always
  deriving DecidableEq

/-- Which names are left out because they start with a point. -/
inductive Hidden where
  | usual
  | almostAll
  | all
  deriving DecidableEq

/-- How sizes are written. -/
inductive Scale where
  /-- In units of a size, rounded up, with a sign for the unit. -/
  | units (size : Nat) (sign : String)
  /-- With a letter for a power of a base. -/
  | readable (base : Nat)

/-- What is asked for. -/
structure Wish where
  layout : Option Layout := none
  order : Option Order := none
  mark : Mark := .none
  style : Style := .literal
  follow : Option Follow := none
  hidden : Hidden := .usual
  ignored : List String := []
  hiddenPatterns : List String := []
  directoriesAsFiles : Bool := false
  directoriesFirst : Bool := false
  reverse : Bool := false
  recursive : Bool := false
  blocks : Bool := false
  context : Bool := false
  masks : Bool := false
  usesTime : Bool := false
  owner : Bool := true
  group : Bool := true
  author : Bool := false
  numeric : Bool := false
  /-- The numbers of the nodes are told. -/
  numbers : Bool := false
  scale : Option Scale := none
  blockScale : Option Scale := none
  kibibytes : Bool := false
  newline : String := "\n"
  width : Nat := 80
  tab : Nat := 8
  timeFormat : Option String := none

/-- The styles of names and their words. -/
def styleWords : List (String × Style) := [
  ("literal", .literal), ("shell", .shell), ("shell-always", .shellAlways),
  ("shell-escape", .shellEscape), ("shell-escape-always", .shellEscapeAlways), ("c", .doubled),
  ("c-maybe", .doubledIfNeeded), ("escape", .escaped), ("locale", .marked), ("clocale", .marked)]

/-- The words for orders. -/
def orderWords : List (String × Order) := [
  ("none", .none), ("time", .time), ("size", .size), ("extension", .extension),
  ("version", .version), ("width", .width)]

/-- The words for layouts, those with the same meaning together. -/
def layoutWords : List (List String × Layout) := [
  (["verbose", "long"], .long), (["commas"], .commas), (["horizontal", "across"], .across),
  (["vertical"], .columns), (["single-column"], .lines)]

/-- The words for marks. -/
def markWords : List (String × Mark) := [
  ("none", .none), ("slash", .slash), ("file-type", .kind), ("classify", .all)]

/-- The words for times, those with the same meaning together. -/
def timeWords : List (List String) := [
  ["atime", "access", "use"], ["ctime", "status"], ["mtime", "modification"], ["birth", "creation"]]

/-- The words for when something is done, those with the same meaning together. -/
def whenWords : List (List String) :=
  [["always", "yes", "force"], ["never", "no", "none"], ["auto", "tty", "if-tty"]]

/-- A number that a value says; more than it can be is as much as there can be. -/
def wholeNumber? (text : String) : Option Nat :=
  match Numeral.inAnyBase false text.toList with
  | some (value, []) => some value
  | _ => none

/-- The letters for the powers of a base. -/
def powerLetters : List Char := ['K', 'M', 'G', 'T', 'P', 'E', 'Z', 'Y']

/-- The power that letters stand for; two kinds of endings tell the base. -/
def powerOf? (letters : List Char) : Option Nat :=
  let power (base : Nat) (c : Char) : Option Nat :=
    let c := if ['k', 'm', 'g', 't', 'p', 'e', 'z', 'y'].contains c then c.toUpper else c
    (powerLetters.findIdx? (· == c)).map fun index => Nat.pow base (index + 1)
  match letters with
  | [] => some 1
  | [c] | [c, 'i', 'B'] => power 1024 c
  | [c, 'B'] | [c, 'D'] => power 1000 c
  | _ => none

/-- The scale that a text means; a number alone is one of octets, and letters alone are also written
after sizes. -/
def scaleOf (text : String) : Except String Scale := do
  let option := "--block-size argument " ++ quoted text
  let text := match text.toList with
    | '\'' :: rest => rest
    | rest => rest
  let isWord (word : String) : Bool := !text.isEmpty && text.isPrefixOf word.toList
  if isWord "human-readable" then return .readable 1024
  if isWord "si" then return .readable 1000
  let digits := text.dropWhile isSpace
  let (number, letters, isNumber) := match Numeral.inAnyBase false digits with
    | some (number, rest) => (number, rest, true)
    | none => (1, digits, false)
  if !isNumber && (powerOf? (letters.take 1) = none || letters.isEmpty) then
    throw ("invalid " ++ option)
  match powerOf? letters with
  | none => throw ("invalid suffix in " ++ option)
  | some power =>
    if Nat.pow 2 64 ≤ number * power then throw (option ++ " too large")
    if number = 0 then throw ("invalid " ++ option)
    let first := letters.take 1
    let sign := String.ofList (if first.map Char.toUpper == ['K'] && letters.length = 2 then 'k' :: letters.tail
      else first.map Char.toUpper ++ letters.tail)
    return .units (number * power) (if isNumber then "" else sign)

/-- Takes in a layout that is asked for by a letter; one name on a line adds nothing to the long one. -/
def Wish.setLayout (wish : Wish) (layout : Layout) : Wish :=
  if layout = .lines && wish.layout = some .long then wish else { wish with layout := some layout }

/-- Takes in an option. -/
def take (wide : Bool) (wish : Wish) (given : Given) : Except Fault Wish := do
  let value := given.value.getD ""
  let invalid (text : String) : Except Fault Wish :=
    throw ⟨text ++ Quotation.marked wide value, 2, false⟩
  match given.name with
  | "a" => return { wish with hidden := .all }
  | "A" => return { wish with hidden := .almostAll }
  | "b" => return { wish with style := .escaped }
  | "B" => return { wish with ignored := wish.ignored ++ ["*~", ".*~"] }
  | "c" | "u" => return { wish with usesTime := true }
  | "C" => return wish.setLayout .columns
  | "d" => return { wish with directoriesAsFiles := true }
  | "f" =>
    return { wish with
      hidden := .all, order := some .none
      layout := if wish.layout = some .long then none else wish.layout }
  | "F" =>
    match given.value with
    | none => return { wish with mark := .all }
    | some word =>
      let found ← meaning wide "--classify" (whenWords.map fun group => (group, group.headD "")) word
      return if found = some "always" then { wish with mark := .all } else wish
  | "g" => return { wish.setLayout .long with owner := false }
  | "G" => return { wish with group := false }
  | "h" => return { wish with scale := some (.readable 1024), blockScale := some (.readable 1024) }
  | "si" => return { wish with scale := some (.readable 1000), blockScale := some (.readable 1000) }
  | "H" => return { wish with follow := some .operands }
  | "follow-directories" => return { wish with follow := some .directories }
  | "I" => return { wish with ignored := wish.ignored ++ [value] }
  | "hide" => return { wish with hiddenPatterns := wish.hiddenPatterns ++ [value] }
  | "i" => return { wish with numbers := true }
  | "k" => return { wish with kibibytes := true }
  | "l" => return wish.setLayout .long
  | "L" => return { wish with follow := some .always }
  | "m" => return wish.setLayout .commas
  | "n" => return { wish.setLayout .long with numeric := true }
  | "N" => return { wish with style := .literal }
  | "o" => return { wish.setLayout .long with group := false }
  | "p" => return { wish with mark := .slash }
  | "file-type" => return { wish with mark := .kind }
  | "q" => return { wish with masks := true }
  | "show" => return { wish with masks := false }
  | "Q" => return { wish with style := .doubled }
  | "r" => return { wish with reverse := true }
  | "R" => return { wish with recursive := true }
  | "s" => return { wish with blocks := true }
  | "S" => return { wish with order := some .size }
  | "t" => return { wish with order := some .time }
  | "U" => return { wish with order := some .none }
  | "v" => return { wish with order := some .version }
  | "X" => return { wish with order := some .extension }
  | "x" => return wish.setLayout .across
  | "Z" => return { wish with context := true }
  | "1" => return wish.setLayout .lines
  | "author" => return { wish with author := true }
  | "group-first" => return { wish with directoriesFirst := true }
  | "zero" =>
    return { wish.setLayout .lines with newline := "\x00", masks := false, style := .literal }
  | "full-time" => return { wish.setLayout .long with timeFormat := some "full-iso" }
  | "w" =>
    match wholeNumber? value with
    | some width => return { wish with width }
    | none => invalid "invalid line width: "
  | "T" =>
    match wholeNumber? value with
    | some tab => return { wish with tab }
    | none => invalid "invalid tab size: "
  | "block-size" =>
    match scaleOf value with
    | .ok scale => return { wish with scale := some scale, blockScale := some scale }
    | .error text => throw ⟨text, 2, false⟩
  | "quoting-style" =>
    return { wish with
      style := (← meaning wide "--quoting-style" (single styleWords) value).getD wish.style }
  | "sort" =>
    return { wish with order := ← meaning wide "--sort" (single orderWords) value }
  | "format" =>
    return { wish with layout := ← meaning wide "--format" layoutWords value }
  | "indicator-style" =>
    return { wish with
      mark := (← meaning wide "--indicator-style" (single markWords) value).getD wish.mark }
  | "time" =>
    let _ ← meaning wide "--time" (timeWords.map fun group => (group, ())) value
    return { wish with usesTime := true }
  | "color" | "hyperlink" =>
    if let some word := given.value then
      let _ ← meaning wide ("--" ++ given.name) (whenWords.map fun group => (group, ())) word
    return wish
  | "time-style" => return { wish with timeFormat := some value }
  | _ => return wish

/-- The options that are known. -/
def known : Known :=
  Known.of "aAbBcCdDfFgGhHiklLmnNopqQrRsStuUvxXZ1" "ITw"
    [("all", "a"), ("almost-all", "A"), ("escape", "b"), ("ignore-backups", "B"), ("directory", "d"),
      ("dired", "D"), ("no-group", "G"), ("human-readable", "h"), ("si", "si"),
      ("dereference-command-line", "H"),
      ("dereference-command-line-symlink-to-dir", "follow-directories"), ("inode", "i"),
      ("kibibytes", "k"), ("dereference", "L"), ("numeric-uid-gid", "n"), ("literal", "N"),
      ("file-type", "file-type"), ("hide-control-chars", "q"), ("show-control-chars", "show"),
      ("quote-name", "Q"), ("reverse", "r"), ("recursive", "R"), ("size", "s"), ("context", "Z"),
      ("author", "author"), ("full-time", "full-time"), ("group-directories-first", "group-first"),
      ("zero", "zero")]
    [("classify", .optional, "F"), ("ignore", .required, "I"), ("hide", .required, "hide"),
      ("width", .required, "w"), ("tabsize", .required, "T"), ("block-size", .required, "block-size"),
      ("quoting-style", .required, "quoting-style"), ("sort", .required, "sort"),
      ("format", .required, "format"), ("indicator-style", .required, "indicator-style"),
      ("time", .required, "time"), ("time-style", .required, "time-style"),
      ("color", .optional, "color"), ("hyperlink", .optional, "hyperlink")]

/-- The style that a variable asks for. -/
def usualStyle (job : Job) : Style :=
  ((job.valueOf? "QUOTING_STYLE").bind fun word =>
    (styleWords.find? (·.1 == word)).map (·.2)).getD .literal

namespace Wish

/-- The layout. -/
def layoutOrUsual (wish : Wish) : Layout := wish.layout.getD .lines

/-- The order of entries. -/
def orderOrUsual (wish : Wish) : Order :=
  wish.order.getD (if wish.usesTime && wish.layout != some .long then .time else .name)

/-- Which links are followed. -/
def followOrUsual (wish : Wish) : Follow :=
  wish.follow.getD (if wish.directoriesAsFiles || wish.mark = .all || wish.layout = some .long
    then .never else .directories)

/-- Entries may share lines. -/
def sharesLines (wish : Wish) : Bool :=
  [Layout.columns, .across, .commas].contains wish.layoutOrUsual

end Wish

/-- The words for formats of times. -/
def timeFormatWords : List (List String) := [["full-iso"], ["long-iso"], ["iso"], ["locale"]]

/-- What is told of a bad word for a format of times. -/
def timeFormatHelp : String :=
  "Valid arguments are:\n" ++
  "  - [posix-]full-iso\n  - [posix-]long-iso\n  - [posix-]iso\n  - [posix-]locale\n" ++
  "  - +FORMAT (e.g., +%H:%M) for a 'date'-style format"

/-- A text without a beginning, however often it stands there. The number bounds how often. -/
def withoutStart (start : List Char) : Nat → List Char → List Char
  | 0, text => text
  | steps + 1, text =>
    if start.isPrefixOf text then withoutStart start steps (text.drop start.length) else text

/-- The format of times: a word, or what stands after a plus sign. -/
def timeFormatOf (wide : Bool) (text : String) : Except Fault String :=
  let posix := "posix-".toList
  let isPosix := posix.isPrefixOf text.toList
  let text := String.ofList (withoutStart posix text.length text.toList)
  if isPosix && !wide then .ok "locale"
  else if text.toList.head? = some '+' then
    match cutAt '\n' text.toList with
    | [_] | [_, _] => .ok text
    | _ => .error ⟨"invalid time style format " ++
        Quotation.marked wide (String.ofList text.toList.tail), 2, false⟩
  else
    match chooseWord wide "time style" timeFormatWords text with
    | .ok word => .ok word
    | .error fault =>
      .error ⟨((cutAt '\n' fault.toList).head?.map String.ofList).getD "" ++ "\n" ++ timeFormatHelp, 2, true⟩

/-- Sets the width and the tabs that variables ask for, if they matter, and gives what is told of bad
ones. -/
def Wish.setSpacing (job : Job) (given : List Given) (wish : Wish) : Wish × List String :=
  let has (name : String) : Bool := given.any (·.name == name)
  let value (named option : String) : Option String :=
    ((job.valueOf? named).filter (!·.isEmpty)).filter fun _ => wish.sharesLines && !has option
  let bad (what named text : String) : String :=
    "ignoring invalid " ++ what ++ " in environment variable " ++ named ++ ": " ++
      Quotation.marked job.isWide text
  let columns := value "COLUMNS" "w"
  let tab := (value "TABSIZE" "T").filter fun _ => (job.valueOf? "POSIXLY_CORRECT").isNone
  ({ wish with
      width := (columns.bind wholeNumber?).getD wish.width
      tab := (tab.bind wholeNumber?).getD wish.tab },
    (columns.toList.filter fun text => (wholeNumber? text).isNone).map (bad "width" "COLUMNS") ++
    (tab.toList.filter fun text => (wholeNumber? text).isNone).map (bad "tab size" "TABSIZE"))

/-- The scale that variables ask for, first that of the sizes of files. -/
def usualScales (job : Job) : Option Scale × Option Scale :=
  let read (text : String) : Option Scale := (scaleOf text).toOption
  let usual := if (job.valueOf? "POSIXLY_CORRECT").isSome then some (Scale.units 512 "") else none
  match job.valueOf? "LS_BLOCK_SIZE", job.valueOf? "BLOCK_SIZE", job.valueOf? "BLOCKSIZE" with
  | some text, _, _ | none, some text, _ => (read text, (read text).or usual)
  | none, none, some text => (none, (read text).or usual)
  | none, none, none => (none, usual)

/-- What a job asks for, and what is told of variables that cannot be meant. -/
def Wish.ofJob (job : Job) (options : List Given) : Except Fault (Wish × List String) := do
  let wish ← options.foldlM (take job.isWide) { style := usualStyle job }
  let (wish, warnings) := wish.setSpacing job options
  let (scale, blockScale) := usualScales job
  let wish := if wish.blockScale.isSome then wish
    else { wish with
      scale
      blockScale := if wish.kibibytes then some (.units 1024 "") else blockScale }
  if wish.layout != some .long then return (wish, warnings)
  let timeFormat ← (wish.timeFormat.or (job.valueOf? "TIME_STYLE")).mapM (timeFormatOf job.isWide)
  return ({ wish with timeFormat }, warnings)

end Runbook.Host.Utility.Listing
