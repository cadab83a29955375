import Runbook.Host.Utility.Escape
import Runbook.Host.Utility.Options

/-!
# Translating octets

Octets of the standard input are replaced, dropped or squeezed. Which ones, is said by sets: octets,
ranges of them, classes and repetitions.

* `Translation.elements` reads a set.
* `Translation.arranged` finds out what a set stands for next to another one, or why the two do not fit.
* `Translation.replacement` is what an octet becomes.
-/

namespace Runbook.Host.Utility

namespace Translation

/-- A character, and whether it stands for itself wherever it is. -/
abbrev Sign := Char × Bool

/-! ## Escapes -/

/-- The octet of up to three octal digits, with what is told of digits that are too many. -/
def octalSign (text : List Char) : Char × List Char × Option String :=
  match Numeral.digits 8 3 0 text with
  | (value, rest) =>
    if value < 256 then (Escape.octet value, rest, none)
    else
      let (value, rest) := Numeral.digits 8 2 0 text
      let digits := String.ofList (text.take 2)
      let last := String.ofList (text.drop 2 |>.take 1)
      (Escape.octet value, rest, some
        ("warning: the ambiguous octal escape \\" ++ digits ++ last ++ " is being\n" ++
          "\tinterpreted as the 2-byte sequence \\0" ++ digits ++ ", " ++ last))

/-- The signs of a text, and what is told of them. The first argument bounds their number. -/
def signs : Nat → List Char → List Sign × List String
  | 0, _ | _ + 1, [] => ([], [])
  | steps + 1, '\\' :: rest =>
    match rest with
    | [] =>
      ([('\\', false)], ["warning: an unescaped backslash at end of string is not portable"])
    | c :: more =>
      let (c, rest, remark) :=
        if (Numeral.digit? 8 c).isSome then octalSign rest
        else (match Escape.control? c with
          | some control => if c = 'e' then c else control
          | none => c, more, none)
      let (found, remarks) := signs steps rest
      ((c, true) :: found, remark.toList ++ remarks)
  | steps + 1, c :: rest =>
    let (found, remarks) := signs steps rest
    ((c, false) :: found, remarks)

/-! ## Sets -/

/-- The octets from one to another. -/
def range (first last : Char) : List Char :=
  (List.range (last.toNat + 1 - first.toNat)).map fun i => Char.ofNat (first.toNat + i)

/-- All octets. -/
def allOctets : List Char := range '\x00' (Char.ofNat 255)

/-- The octets of a class. -/
def octetClass? : String → Option (List Char)
  | "lower" => some (range 'a' 'z')
  | "upper" => some (range 'A' 'Z')
  | "digit" => some (range '0' '9')
  | "alpha" => some (range 'A' 'Z' ++ range 'a' 'z')
  | "alnum" => some (range '0' '9' ++ range 'A' 'Z' ++ range 'a' 'z')
  | "space" => some (range '\t' '\r' ++ [' '])
  | "blank" => some ['\t', ' ']
  | "punct" => some (range '!' '/' ++ range ':' '@' ++ range '[' '\x60' ++ range '\x7b' '~')
  | "cntrl" => some (range '\x00' '\x1f' ++ ['\x7f'])
  | "print" => some (range ' ' '~')
  | "graph" => some (range '!' '~')
  | "xdigit" => some (range '0' '9' ++ range 'A' 'F' ++ range 'a' 'f')
  | _ => none

/-- A part of a set. -/
inductive Element where
  | char (c : Char)
  | range (first last : Char)
  | charClass (name : String) (octets : List Char)
  /-- What counts as the same as a character: that alone. -/
  | same (c : Char)
  /-- A character so often, or, if zero is said, as often as is needed. -/
  | repeated (c : Char) (count : Nat)
  deriving Repr

namespace Element

/-- The octets of a part. -/
def octets : Element → List Char
  | char c | same c => [c]
  | range first last => Translation.range first last
  | charClass _ octets => octets
  | repeated c count => List.replicate count c

/-- The number of octets. -/
def length : Element → Nat
  | char _ | same _ => 1
  | range first last => last.toNat + 1 - first.toNat
  | charClass _ octets => octets.length
  | repeated _ count => count

/-- As often as is needed. -/
def isIndefinite : Element → Bool
  | repeated _ 0 => true
  | _ => false

/-- The part is a class. -/
def isClass : Element → Bool
  | charClass _ _ => true
  | _ => false

/-- The part is the class of the letters of one case. -/
def isCase : Element → Bool
  | charClass name _ => name == "upper" || name == "lower"
  | _ => false

end Element

/-- A character in messages. -/
def charText (c : Char) : String :=
  if ' ' ≤ c && c ≤ '~' then String.singleton c else String.ofList (Quotation.octalText c)

/-- A text in messages. -/
def plainText (text : List Char) : String :=
  String.join (text.map fun c =>
    match Quotation.controlLetter? c with
    | some letter => String.ofList ['\\', letter]
    | none => charText c)

/-- The sign is a certain character that was not escaped. -/
def is (c : Char) (sign : Sign) : Bool := sign == (c, false)

/-- What stands before a mark and a bracket that close, and what comes after them. -/
def closed? (mark : Char) : List Sign → Option (List Sign × List Sign)
  | first :: second :: rest =>
    if is mark first && is ']' second then some ([], rest)
    else (closed? mark (second :: rest)).map fun found => (first :: found.1, found.2)
  | _ => none

/-- A star and digits up to a bracket. -/
def isStarred : List Sign → Bool
  | first :: rest =>
    is '*' first && (rest.dropWhile fun sign => sign.1.isDigit && !sign.2).head?.any (is ']')
  | [] => false

/-- The largest number of repetitions. -/
def countLimit : Nat := Nat.pow 2 63 - 1

/-- The number of repetitions that a text says. -/
def count? (text : List Char) : Option Nat :=
  if text.isEmpty then some 0
  else
    let digits := text.dropWhile isSpace
    let digits := if digits.head? = some '+' then digits.tail else digits
    match Numeral.inBase (if text.head? = some '0' then 8 else 10) digits with
    | some (value, []) => if value ≤ countLimit then some value else none
    | _ => none

/-- A repetition after a bracket, and what comes after it; none if there is no repetition. A number that
makes no sense is an error. -/
def repetition? (signs : List Sign) : Except (List Char) (Option (Element × List Sign)) :=
  match signs with
  | c :: star :: rest =>
    if !is '*' star then .ok none
    else
      let inside := rest.takeWhile fun sign => !sign.2 && sign.1 != ']'
      match rest.drop inside.length with
      | close :: after =>
        if !is ']' close then .ok none
        else
          let text := inside.map (·.1)
          match count? text with
          | some count => .ok (some (.repeated c.1 count, after))
          | none => .error text
      | [] => .ok none
  | _ => .ok none

/-- A class between brackets. -/
def classElement (wide : Bool) (mark : Char) (name : List Char) : Except String Element :=
  match mark, name with
  | ':', [] => .error "missing character class name '[::]'"
  | _, [] => .error "missing equivalence class character '[==]'"
  | ':', name =>
    match octetClass? (String.ofList name) with
    | some octets => .ok (.charClass (String.ofList name) octets)
    | none => .error ("invalid character class " ++ Quotation.marked wide (plainText name))
  | _, [c] => .ok (.same c)
  | _, name =>
    .error (plainText name ++ ": equivalence class operand must be a single character")

/-- What stands after a bracket, if it is one part, and what comes after that. -/
def bracketed (wide : Bool) (signs : List Sign) : Except String (Option (Element × List Sign)) := do
  let repetition : Except String (Option (Element × List Sign)) :=
    (repetition? signs).mapError fun text =>
      "invalid repeat count " ++ Quotation.marked wide (plainText text) ++ " in [c*n] construct"
  match signs with
  | mark :: rest =>
    if is ':' mark || is '=' mark then
      match closed? mark.1 rest with
      | none => repetition
      | some (name, after) =>
        match classElement wide mark.1 (name.map (·.1)) with
        | .ok element => return some (element, after)
        | .error fault =>
          if !name.isEmpty && isStarred rest then repetition else throw fault
    else repetition
  | [] => return none

/-- The parts of a set. The first argument bounds their number. -/
def elements (wide : Bool) : Nat → List Sign → Except String (List Element)
  | 0, _ => .ok []
  | steps + 1, signs =>
    match signs with
    | first :: second :: third :: rest => do
      let found ← if is '[' first then bracketed wide (second :: third :: rest) else pure none
      match found with
      | some (element, after) => return element :: (← elements wide steps after)
      | none =>
        if is '-' second then
          if third.1 < first.1 then
            throw ("range-endpoints of '" ++ charText first.1 ++ "-" ++ charText third.1 ++
              "' are in reverse collating sequence order")
          return .range first.1 third.1 :: (← elements wide steps rest)
        else return .char first.1 :: (← elements wide steps (second :: third :: rest))
    | signs => .ok (signs.map (.char ·.1))

/-! ## Pairs of sets -/

/-- What is asked for. -/
structure Wish where
  complement : Bool
  deletes : Bool
  squeezes : Bool
  truncates : Bool

/-- The number of octets of a set. -/
def lengthOf (set : List Element) : Nat := (set.map Element.length).foldl (· + ·) 0

/-- The octets of a set. -/
def octetsOf (set : List Element) : List Char := set.flatMap Element.octets

/-- The octets that are not in a list. -/
def without (octets : List Char) : List Char := allOctets.filter fun c => !octets.contains c

/-- A set whose indefinite repetition makes it as long as another one. -/
def filledUp (length : Nat) (set : List Element) : List Element :=
  let missing := length - lengthOf set
  set.map fun element =>
    match element with
    | .repeated c 0 => .repeated c missing
    | element => element

/-- What is left of two parts that stand beside each other, before others. -/
def advance (first second : Element) (rest others : List Element) : List Element × List Element :=
  let length := min first.length second.length
  ((first.octets.drop length).map .char ++ rest, (second.octets.drop length).map .char ++ others)

/-- The number of classes of letters of a case in the second set; none if one of them does not stand
beside such a class. The first argument bounds the number of octets. -/
def pairedCases : Nat → List Element → List Element → Option Nat
  | 0, _, _ | _, _, [] => some 0
  | steps + 1, first, second :: others =>
    match first with
    | [] => if second.isCase then none else some 0
    | first :: rest =>
      if second.isCase then
        if first.isCase then (pairedCases steps rest others).map (· + 1) else none
      else
        let (rest, others) := advance first second rest others
        pairedCases steps rest others

/-- The second set, made as long as the first one by repeating its last octet. -/
def extended (missing : Nat) (set : List Element) : Except String (List Element) :=
  match set.getLast? with
  | none => .error "when not truncating set1, string2 must be non-empty"
  | some (.charClass _ _) =>
    .error ("when translating with string1 longer than string2,\n" ++
      "the latter string must not end with a character class")
  | some (.range _ last) => .ok (set ++ [.repeated last missing])
  | some (.char c) | some (.same c) | some (.repeated c _) => .ok (set ++ [.repeated c missing])

/-- All octets of a list are the same, and there is one. -/
def isUniform : List Char → Bool
  | [] => false
  | c :: rest => rest.all (· == c)

/-- The pairs of a translation: octets and what they become. Classes of letters are paired with each
other, letter by letter. The first argument bounds the number of octets. -/
def pairs : Nat → List Element → List Element → List (Char × Char)
  | 0, _, _ | _, [], _ | _, _, [] => []
  | steps + 1, first :: rest, second :: others =>
    if second.isCase && first.isCase then
      first.octets.zip second.octets ++ pairs steps rest others
    else
      let left := advance first second rest others
      first.octets.zip second.octets ++ pairs steps left.1 left.2

/-- The number of letters of a case. -/
def letterCount : Nat := 26

/-- The second set as it is used beside the first one, or why the two do not fit. -/
def arranged (wish : Wish) (isTranslation : Bool) (first second : List Element) :
    Except String (List Element) := do
  let domain := if wish.complement then (without (octetsOf first)).length else lengthOf first
  let indefinite := second.filter Element.isIndefinite
  let second := if indefinite.length = 1 then filledUp domain second else second
  if 1 < indefinite.length then
    throw "only one [c*] repeat construct may appear in string2"
  if !isTranslation then
    if !indefinite.isEmpty then
      throw "the [c*] construct may appear in string2 only when translating"
    return second
  if second.any fun element => match element with
      | .same _ => true
      | _ => false then
    throw "[=c=] expressions may not appear in string2 when translating"
  if second.any fun element => element.isClass && !element.isCase then
    throw ("when translating, the only character classes that may appear in\n" ++
      "string2 are 'upper' and 'lower'")
  let steps := lengthOf first + lengthOf second + 1
  let cases ←
    if wish.complement || !second.any Element.isClass then pure 0
    else
      match pairedCases steps first second with
      | some count => pure count
      | none => throw "misaligned [:upper:] and/or [:lower:] construct"
  let length := domain - cases * (letterCount - 1)
  let given := lengthOf second - cases * (letterCount - 1)
  let second ← if given < length && !wish.truncates then extended (length - given) second
    else pure second
  let isFull := length ≤ given || !wish.truncates
  if wish.complement && first.any Element.isClass &&
      !(isFull && max given length = length && isUniform (octetsOf second)) then
    throw ("when translating with complemented character classes,\n" ++
      "string2 must map all characters in the domain to one")
  return second

/-! ## Octets -/

/-- What an octet is replaced by; the last pair counts. -/
def replacement (pairs : List (Char × Char)) (c : Char) : Char :=
  ((pairs.reverse.find? (·.1 == c)).map (·.2)).getD c

/-- Drops repetitions of some octets. -/
def squeeze (squeezes : Char → Bool) (text : List Char) : List Char :=
  (text.foldl (fun (done : List Char) c =>
    if squeezes c && done.head? == some c then done else c :: done) []).reverse

/-- A function of octets by a table of its values. -/
def tabled {α : Type} (default : α) (function : Char → α) : Char → α :=
  let table := (allOctets.map function).toArray
  fun c => table.getD c.toNat default

/-- What becomes of a text. -/
def apply (wish : Wish) (first : List Element) (second : Option (List Element)) (text : List Char) :
    List Char :=
  let octets := octetsOf first
  let isIn : Char → Bool := tabled false fun c => octets.contains c != wish.complement
  let isInSecond : Char → Bool := tabled false fun c => (octetsOf (second.getD [])).contains c
  if wish.deletes then
    let kept := text.filter fun c => !isIn c
    if second.isSome then squeeze isInSecond kept else kept
  else
    match second with
    | none => squeeze isIn text
    | some second =>
      let pairs := if wish.complement then (without octets).zip (octetsOf second)
        else pairs (lengthOf first + lengthOf second + 1) first second
      let text := text.map (tabled '\x00' (replacement pairs))
      if wish.squeezes then squeeze isInSecond text else text

end Translation

open Translation in
/-- Reads a set. What is told of its escapes is told in any case. -/
def readSet (job : Job) (text : String) : Act (Except String (List Element)) := do
  let (signs, remarks) := signs (text.length + 1) text.toList
  remarks.forM (warn job)
  return elements job.isWide (signs.length + 1) signs

open Translation in
/-- Translates the standard input. -/
def tr : Job → Act Nat :=
  withOptions { Known.of "AcCdst" "" [("complement", "c"), ("delete", "d"), ("squeeze-repeats", "s"),
      ("truncate-set1", "t")] [] with inOrder := true } 1 fun job arguments => do
  let wish : Wish :=
    ⟨arguments.has ["c", "C"], arguments.has ["d"], arguments.has ["s"], arguments.has ["t"]⟩
  let quote := Quotation.marked job.isWide
  let least := if wish.deletes = wish.squeezes then 2 else 1
  let most := if wish.deletes && !wish.squeezes then 1 else 2
  let fault (text : String) : Act Nat := do
    warn job text
    return 1
  match arguments.operands with
  | [] => misuse job "missing operand" 1
  | first :: more =>
    if more.length + 1 < least then
      return ← misuse job ("missing operand after " ++ quote first ++ "\n" ++
        (if wish.squeezes then "Two strings must be given when both deleting and squeezing repeats."
          else "Two strings must be given when translating.")) 1
    if let some extra := more[most - 1]? then
      return ← misuse job ("extra operand " ++ quote extra ++
        (if more.length = 1 then
          "\nOnly one string may be given when deleting without squeezing repeats." else "")) 1
    let isTranslation := !more.isEmpty && !wish.deletes
    match ← readSet job first with
    | .error text => fault text
    | .ok first =>
      let second ← match more.head? with
        | none => pure (.ok none)
        | some text => do
          let found ← readSet job text
          pure (found.map some)
      match second with
      | .error text => fault text
      | .ok second =>
        if first.any Element.isIndefinite then
          return ← fault "the [c*] repeat construct may not appear in string1"
        match second.mapM (arranged wish isTranslation first) with
        | .error text => fault text
        | .ok second =>
          match ← Act.readAll 0 with
          | .error refusal => fault ("read error: " ++ refusal.text)
          | .ok text => print job (String.ofList (apply wish first second text.toList)) 0

end Runbook.Host.Utility
