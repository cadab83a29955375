import Runbook.Number.Duration

/-!
# Instants

Readings of a clock: whole seconds, for which there are 64 bits with a sign, and nanoseconds below a second.

`Instant.after?` is the instant a duration after another one, if the seconds of it can be told.
-/

namespace Runbook.Number

/-- The seconds can be told with 64 bits and a sign. -/
def tellsSeconds (seconds : Int) : Bool := -Int.pow 2 63 ≤ seconds && seconds < Int.pow 2 63

/-- A reading of a clock. -/
structure Instant where
  seconds : Int
  nanoseconds : Nat
  isTold : tellsSeconds seconds = true
  isPart : nanoseconds < Duration.second

namespace Instant

/-- The instant with these seconds and nanoseconds, if it can be told. -/
def ofParts? (seconds : Int) (nanoseconds : Nat) : Option Instant :=
  if h : tellsSeconds seconds = true ∧ nanoseconds < Duration.second then
    some ⟨seconds, nanoseconds, h.1, h.2⟩
  else none

/-- The instant that many nanoseconds after the clock began. -/
def ofNanoseconds? (nanoseconds : Nat) : Option Instant :=
  ofParts? (nanoseconds / Duration.second) (nanoseconds % Duration.second)

/-- The instant a duration later. The seconds are added before a second is carried over, and both sums must
be told. -/
def after? (instant : Instant) (duration : Duration) : Option Instant :=
  let seconds := instant.seconds + (duration.nanoseconds / Duration.second : Nat)
  let nanoseconds := instant.nanoseconds + duration.nanoseconds % Duration.second
  if nanoseconds < Duration.second then ofParts? seconds nanoseconds
  else if tellsSeconds seconds then ofParts? (seconds + 1) (nanoseconds - Duration.second)
  else none

end Instant

end Runbook.Number
