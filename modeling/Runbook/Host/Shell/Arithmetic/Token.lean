import Runbook.Host.Shell.Arithmetic.Operator
import Runbook.Host.Utility.Numeral

/-!
# Tokens of arithmetic

A `Token` is the smallest part of an expression. `Token.scan` cuts a text into tokens, of which each is as
long as can be; blanks between them do not matter.
-/

namespace Runbook.Host.Shell.Arithmetic

/-- The smallest part of an expression. -/
inductive Token where
  | number (value : Int)
  | variableName (name : String)
  | operator (operator : Operator)
  /-- An equals sign, maybe with an operator before it. -/
  | assign (operator : Option Operator)
  | both
  | either
  | negation
  | complement
  | question
  | colon
  | opening
  | closing
  /-- A character with which no part begins. Nothing is looked at after it. -/
  | unknown
  deriving DecidableEq, Repr

namespace Token

/-- The signs of expressions, each before those with which it begins. -/
def signs : List (String × Token) := [
  ("<<=", .assign (some .shiftedLeft)), (">>=", .assign (some .shiftedRight)),
  ("*=", .assign (some .times)), ("/=", .assign (some .dividedBy)),
  ("%=", .assign (some .remainder)), ("+=", .assign (some .plus)), ("-=", .assign (some .minus)),
  ("&=", .assign (some .bitsInBoth)), ("^=", .assign (some .bitsInOne)),
  ("|=", .assign (some .bitsInEither)),
  ("<<", .operator .shiftedLeft), (">>", .operator .shiftedRight), ("<=", .operator .atMost),
  (">=", .operator .atLeast), ("==", .operator .equal), ("!=", .operator .unequal),
  ("&&", .both), ("||", .either),
  ("*", .operator .times), ("/", .operator .dividedBy), ("%", .operator .remainder),
  ("+", .operator .plus), ("-", .operator .minus), ("<", .operator .less), (">", .operator .greater),
  ("&", .operator .bitsInBoth), ("^", .operator .bitsInOne), ("|", .operator .bitsInEither),
  ("=", .assign none), ("!", .negation), ("~", .complement), ("?", .question), (":", .colon),
  ("(", .opening), (")", .closing)]

/-- The sign at the start of a text. -/
def sign? (text : List Char) : Option (String × Token) :=
  signs.find? fun entry => entry.1.toList.isPrefixOf text

/-- A character of the name of a variable. -/
def inVariable (c : Char) : Bool := c.isAlphanum || c == '_'

/-- The token at the start of a text that does not begin with a blank, and the rest. -/
def first (text : List Char) : Token × List Char :=
  if text.head?.any fun c => c.isAlpha || c == '_' then
    (.variableName (String.ofList (text.takeWhile inVariable)), text.dropWhile inVariable)
  else
    match Numeral.inAnyBase false text with
    | some (value, rest) => (.number (min (value : Int) Numeral.largest), rest)
    | none =>
      match sign? text with
      | some (sign, token) => (token, text.drop sign.length)
      | none => (.unknown, [])

/-- The tokens of a text. The first argument bounds their number. -/
def tokens : Nat → List Char → List Token
  | 0, _ => []
  | count + 1, text =>
    match text.dropWhile fun c => c == ' ' || c == '\t' || c == '\n' with
    | [] => []
    | text =>
      let (token, rest) := first text
      token :: tokens count rest

/-- The tokens of a text. -/
def scan (text : String) : List Token := tokens text.length text.toList

end Token

end Runbook.Host.Shell.Arithmetic
