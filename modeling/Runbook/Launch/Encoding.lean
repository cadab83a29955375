import Runbook.Json.Value
import Runbook.Text.Utf8

/-!
# Captured streams

What is made of the bytes that a launch captured.

* `Encoding.decode` gives a text, strictly or leniently, or leaves the bytes alone.
* `Encoding.parse?` reads the names of the encodings, whatever the case of their letters, with a
  hyphen or a low line.
-/

namespace Runbook

/-- The contents of a captured stream. -/
inductive Captured where
  | text (text : String)
  | bytes (bytes : Bytes)
  deriving DecidableEq, Repr

namespace Captured

/-- The contents, if they are a text. -/
def text? : Captured → Option String
  | text t => some t
  | bytes _ => none

/-- The contents as bytes. -/
def toBytes : Captured → Bytes
  | text t => utf8 t
  | bytes b => b

/-- The contents as a text, with the replacement character for what cannot be read. -/
def toTextLossy : Captured → String
  | text t => t
  | bytes b => textLossy b

/-- A text, or the list of the bytes. -/
def toJson : Captured → Json
  | text t => Json.ofText t
  | bytes b => Json.array (b.map fun byte => Json.ofInt byte.toNat)

end Captured

/-- How captured bytes are read. -/
inductive Encoding where
  /-- As a text; bytes that are none are a failure. -/
  | utf8
  /-- As a text, with the replacement character for what is none. -/
  | utf8Lossy
  /-- Not at all. -/
  | bytes
  deriving DecidableEq, Repr

namespace Encoding

/-- The name of an encoding. -/
def name : Encoding → String
  | utf8 => "utf8"
  | utf8Lossy => "utf8-lossy"
  | bytes => "bytes"

/-- The name of an encoding in the description of a runner. -/
def describe : Encoding → String
  | utf8 => "Utf8"
  | utf8Lossy => "Utf8Lossy"
  | bytes => "Bytes"

/-- The encoding with this name. -/
def parse? (name : String) : Option Encoding :=
  let name := String.ofList (name.toList.map fun c => if c = '_' then '-' else c.toLower)
  if name = "utf8" ∨ name = "utf-8" then some utf8
  else if name = "utf8-lossy" ∨ name = "utf-8-lossy" ∨ name = "lossy" then some utf8Lossy
  else if name = "bytes" ∨ name = "binary" ∨ name = "none" then some bytes
  else none

/-- Reads captured bytes. -/
def decode (encoding : Encoding) (stream : Bytes) : Except Utf8.Flaw Captured :=
  match encoding with
  | utf8 => Captured.text <$> text? stream
  | utf8Lossy => .ok (.text (textLossy stream))
  | bytes => .ok (.bytes stream)

end Encoding

end Runbook
