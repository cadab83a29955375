/-!
# JSON values

The values that a JSON text denotes, with nothing decided about them that the text leaves open:
numbers stay as they are written, and members keep their order and their repetitions.

A string may name half of a surrogate pair, which no text holds; its text is then absent.
-/

namespace Runbook

/-- A JSON value. -/
inductive Json where
  | null
  | bool (value : Bool)
  | number (literal : String)
  | string (text : Option String)
  | array (items : List Json)
  | object (members : List (Option String × Json))
  deriving Repr, Inhabited

namespace Json

/-- A string that is a text. -/
def ofText (text : String) : Json := string (some text)

/-- A whole number. -/
def ofInt (n : Int) : Json := number (toString n)

/-- A text, or null. -/
def ofText? : Option String → Json
  | some text => ofText text
  | none => null

/-- A list of texts. -/
def ofTexts (texts : List String) : Json := array (texts.map ofText)

/-- Members with their names. -/
def ofMembers (members : List (String × Json)) : Json :=
  object (members.map fun member => (some member.1, member.2))

end Json

end Runbook
