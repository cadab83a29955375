import Runbook.Config.Settings
import Runbook.Json.Printer
import Runbook.Json.Reader

/-!
# Configurations as documents

A configuration is written as a JSON object whose members have a fixed order; what is absent, and an
empty map of variables, is left out.

* `Config.ofJson?` reads an object: each known member at most once, in any order, and other members
  with any value. It reads an array too, which holds the values of the members in their order.
* `Config.read?` reads a text, `Config.toText` writes one.
-/

namespace Runbook

/-- A switch, or a label. -/
def Toggle.toJson : Toggle → Json
  | switch enabled => .bool enabled
  | label text => Json.ofText text

namespace Config

/-! ## Writing -/

/-- A member that is left out if it is absent. -/
def optionalMember {α : Type} (name : String) (toJson : α → Json) (item : Option α) :
    List (String × Json) :=
  match item with
  | some a => [(name, toJson a)]
  | none => []

/-- The members, in order. -/
def members (config : Config) : List (String × Json) :=
  optionalMember "echo" Toggle.toJson config.echo ++
    optionalMember "on_exception" Toggle.toJson config.onFailure ++
    optionalMember "encoding" Json.ofText config.encoding ++
    [("shell", .bool config.shell)] ++
    optionalMember "cwd" Json.ofText config.cwd ++
    if config.env.isEmpty then []
    else [("env", .ofMembers (config.env.pairs.map fun pair => (pair.1, Json.ofText pair.2)))]

/-- The object of a configuration. -/
def toJson (config : Config) : Json := .ofMembers config.members

/-- The text of a configuration. -/
def toText (config : Config) : String := String.ofList (Json.pretty config.toJson)

/-! ## Reading -/

/-- A switch. -/
def switch? : Json → Option Bool
  | .bool b => some b
  | _ => none

/-- A string that is a text. -/
def text? : Json → Option String
  | .string text => text
  | _ => none

/-- A switch, or a label. -/
def toggle? : Json → Option Toggle
  | .bool b => some (.switch b)
  | .string text => text.map .label
  | _ => none

/-- A value that may be null. -/
def optional? {α : Type} (read? : Json → Option α) : Json → Option (Option α)
  | .null => some none
  | json => some <$> read? json

/-- An object whose values are texts. -/
def variables? : Json → Option Variables
  | .object members => do
    let pairs ← members.mapM fun member => do return (← member.1, ← text? member.2)
    return Variables.ofPairs pairs
  | _ => none

/-- The names of the members, in order. -/
def names : List String := ["echo", "on_exception", "encoding", "shell", "cwd", "env"]

/-- The configuration with one member set; any value will do for an unknown one. -/
def set? (config : Config) (name : String) (json : Json) : Option Config :=
  if name = "echo" then (optional? toggle? json).map fun echo => { config with echo }
  else if name = "on_exception" then
    (optional? toggle? json).map fun onFailure => { config with onFailure }
  else if name = "encoding" then (optional? text? json).map fun encoding => { config with encoding }
  else if name = "shell" then (switch? json).map fun shell => { config with shell }
  else if name = "cwd" then (optional? text? json).map fun cwd => { config with cwd }
  else if name = "env" then (variables? json).map fun env => { config with env }
  else some config

/-- Sets members one after the other. -/
def setAll? (config : Config) : List (String × Json) → Option Config
  | [] => some config
  | (name, json) :: rest => do (← config.set? name json).setAll? rest

/-- The members of an object, if all their names are texts. -/
def named? (members : List (Option String × Json)) : Option (List (String × Json)) :=
  members.mapM fun member => member.1.map fun name => (name, member.2)

/-- No known member is given twice. -/
def distinct (members : List (String × Json)) : Bool :=
  names.all fun name => (members.map (·.1)).count name ≤ 1

/-- The configuration that a value denotes. -/
def ofJson? : Json → Option Config
  | .object members => do
    let members ← named? members
    if distinct members then setAll? {} members else none
  | .array items => if items.length ≤ names.length then setAll? {} (names.zip items) else none
  | _ => none

/-- The configuration that a text denotes. -/
def read? (text : String) : Option Config := do ofJson? (← Json.read? text.toList)

end Config

end Runbook
