import Runbook.Launch.Launcher

/-!
# Scripted launches

A launcher that starts nothing and answers from a list of replies, one for each launch. After the last
reply every launch ends well and prints nothing.
-/

namespace Runbook.Script

/-- The reply to one launch. -/
inductive Reply where
  /-- The process ends, with what it wrote to its streams. -/
  | exits (code : Int) (stdout stderr : Option Bytes)
  /-- The process ends, and exactly the given streams count as captured. -/
  | captures (code : Int) (stdout stderr : Option Bytes)
  /-- The process is not started, or not waited for. -/
  | fails (error : IoError)

/-- A stream as it is captured. -/
def captured (wanted : Bool) (stream : Option Bytes) : Option Bytes :=
  if wanted then some (stream.getD []) else none

/-- What a reply makes of a request. -/
def Reply.outcome (capture : Capture) : Reply → Except IoError Output
  | exits code stdout stderr =>
    .ok ⟨code, captured capture.stdout stdout, captured capture.stderr stderr⟩
  | captures code stdout stderr => .ok ⟨code, stdout, stderr⟩
  | fails error => .error error

/-- The launcher; its state is the list of the replies that are left. -/
def launcher : Launcher (List Reply) := fun request replies =>
  let reply := replies.head?.getD (.exits 0 none none)
  (⟨reply.outcome request.capture, .silent⟩, replies.tail)

end Runbook.Script
