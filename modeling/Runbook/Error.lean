import Runbook.Launch.IoError
import Runbook.Launch.Options
import Runbook.Run.Primitive
import Runbook.Text.Utf8
import Runbook.Word

/-!
# Errors

What can go wrong, by its causes.

* A `Failure` is the failure of one launch; a policy may pass over it.
* A `Misuse` is a request that makes no sense, whatever the lines are.
* An `Error` ends a run or keeps it from starting.

`message` gives the text of each, and `Error.causes` the texts of what lies beneath an error.
-/

namespace Runbook

open Number (Duration)

/-- The failure of one launch. -/
inductive Failure where
  /-- The program could not be started. -/
  | launch (program : String) (error : IoError)
  /-- The program ran longer than it may. -/
  | timeout (program : String) (limit : Duration)
  /-- The exit status is not zero; with what was captured of standard error. -/
  | exit (code : Int) (stderr : Option String)
  /-- What was captured is no text. -/
  | decode (flaw : Utf8.Flaw)
  deriving DecidableEq, Repr

namespace Failure

/-- The text of a failure. -/
def message : Failure → String
  | launch program error => "failed to launch \x60" ++ program ++ "\x60: " ++ error.message
  | timeout program limit => "\x60" ++ program ++ "\x60 timed out after " ++ limit.toText
  | exit code _ => "exited with status " ++ toString code
  | decode flaw => "output is not valid UTF-8: " ++ flaw.message

/-- The exit status, if the program ended by itself. -/
def code? : Failure → Option Int
  | exit code _ => some code
  | _ => none

/-- The texts of a failure and of what lies beneath it. -/
def chain (failure : Failure) : List String :=
  failure.message :: match failure with
    | launch _ error => [error.message]
    | decode flaw => [flaw.message]
    | _ => []

end Failure

/-- A request that makes no sense. -/
inductive Misuse where
  /-- A given line holds a break. -/
  | brokenLine (line : String)
  /-- Only `run` captures both streams. -/
  | capture (primitive : Primitive)
  /-- Only `run` can be told to check the exit status. -/
  | check (primitive : Primitive)
  /-- The program to start has no name. -/
  | noExecutable
  /-- No time is left to run. -/
  | noTime
  /-- A variable cannot have this name. -/
  | badVariable (name : String)
  | unknownPrimitive (name : String)
  | unknownEncoding (name : String)
  deriving DecidableEq, Repr

/-- The text of a misuse. -/
def Misuse.message : Misuse → String
  | brokenLine line => "line sequence element contains a line break: " ++ Text.quoted line
  | capture primitive => "capture_output is only supported by run, not " ++ primitive.name
  | check primitive => "check is only supported by run, not " ++ primitive.name
  | noExecutable => "executable must not be empty"
  | noTime => "timeout must be greater than zero"
  | badVariable name => "invalid environment variable name: " ++ Text.quoted name
  | unknownPrimitive name => "unknown primitive: " ++ name
  | unknownEncoding name => "unknown encoding: " ++ name

/-- What ends a run, or keeps it from starting. -/
inductive Error where
  /-- A comment would hide the continuation of a physical line. -/
  | hiddenContinuation (line : String)
  /-- A logical line gives no words, or its words no line for a shell. -/
  | words (line : String) (fault : Word.Fault)
  /-- The launch for a logical line failed. -/
  | failed (line : String) (failure : Failure)
  | misuse (misuse : Misuse)
  | io (error : IoError)
  /-- A file holds no configuration. The text with which a reader of JSON would say where and why is left
  out. -/
  | badConfig (path : String)
  deriving DecidableEq, Repr

namespace Error

/-- The text of an error. -/
def message : Error → String
  | hiddenContinuation line =>
    "Malformed continuation: a comment hides the line continuation in \x60" ++ line ++ "\x60"
  | words line fault => "Cannot tokenize \x60" ++ line ++ "\x60: " ++ fault.message
  | failed line failure => "Command \x60" ++ line ++ "\x60 failed: " ++ failure.message
  | misuse m => "Invalid usage: " ++ m.message
  | io error => "IO error: " ++ error.message
  | badConfig path => "Configuration error: Failed to parse " ++ path

/-- The line that an error is about. -/
def line? : Error → Option String
  | hiddenContinuation line | words line _ | failed line _ => some line
  | _ => none

/-- The texts of an error and of what lies beneath it. -/
def chain (error : Error) : List String :=
  error.message :: match error with
    | failed _ failure => failure.chain
    | io error => [error.message]
    | _ => []

end Error

end Runbook
