import Runbook.Launch.Invocation
import Runbook.Launch.IoError
import Runbook.Launch.Options
import Runbook.Text.Utf8

/-!
# Launchers

A launcher starts one process and waits for its end. It is a function of a request and of a state of
its own, so that a reply may depend on all launches before. A venture is a launcher that need not come
back: the runner may break off in the midst of a launch, or wait for ever.

What a child writes to a stream that is not captured goes to the streams of the runner itself; a
launch tells these bytes too.
-/

namespace Runbook

/-- Bytes for standard output and for standard error. -/
structure Streams where
  out : Bytes := []
  err : Bytes := []
  deriving DecidableEq, Repr

namespace Streams

/-- Nothing at all. -/
def silent : Streams := ⟨[], []⟩

/-- One after the other. -/
def append (a b : Streams) : Streams := ⟨a.out ++ b.out, a.err ++ b.err⟩

instance : Append Streams := ⟨append⟩

/-- All of them in order. -/
def join (streams : List Streams) : Streams := ⟨streams.flatMap (·.out), streams.flatMap (·.err)⟩

/-- A text on standard output. -/
def printed (text : String) : Streams := ⟨utf8 text, []⟩

/-- A text on standard error. -/
def warned (text : String) : Streams := ⟨[], utf8 text⟩

end Streams

/-- What a launcher is asked for. -/
structure Request where
  invocation : Invocation
  options : Options
  capture : Capture
  deriving DecidableEq, Repr

/-- A process that came to its end. -/
structure Output where
  /-- The exit status, or the negated number of the signal that ended the process. -/
  code : Int
  stdout : Option Bytes
  stderr : Option Bytes
  deriving DecidableEq, Repr

instance decidableEqExcept {ε α : Type} [DecidableEq ε] [DecidableEq α] : DecidableEq (Except ε α)
  | .error a, .error b => decidable_of_iff (a = b) (by rw [Except.error.injEq])
  | .ok a, .ok b => decidable_of_iff (a = b) (by rw [Except.ok.injEq])
  | .error _, .ok _ => isFalse (by rintro ⟨⟩)
  | .ok _, .error _ => isFalse (by rintro ⟨⟩)

/-- What comes of one launch. -/
structure Launched where
  outcome : Except IoError Output
  /-- What reached the streams of the runner itself. -/
  spilled : Streams
  deriving DecidableEq

/-- A launcher with states in `σ`, which comes back from each launch. -/
abbrev Launcher (σ : Type) := Request → σ → Launched × σ

/-- A launcher with states in `σ` that need not come back; a `δ` tells why. -/
abbrev Venture (δ σ : Type) := Request → σ → Except δ Launched × σ

end Runbook
