import Runbook.Launch.Launcher

/-!
# Dialogues

What a runner does, without the launcher: it tells something, asks for a launch and goes on with what
comes of it, or is done, with a result.

* `Dialogue.run` carries a dialogue out with a launcher.
* `Dialogue.venture` carries it out with one that need not come back. Nothing is done behind a launch
  that does not.
-/

namespace Runbook

/-- What is done step by step. Things that are told are in `ω`, results in `α`. -/
inductive Dialogue (ω α : Type) where
  /-- Nothing more is done. -/
  | done (result : α)
  /-- Something is told. -/
  | tell (told : ω) (rest : Dialogue ω α)
  /-- A launch is asked for. -/
  | ask (request : Request) (rest : Launched → Dialogue ω α)

/-- What comes of a dialogue: all that was told, a result, and the state of the launcher. -/
structure Transcript (ω α σ : Type) where
  told : List ω
  result : α
  state : σ

namespace Transcript

variable {ω α σ : Type}

/-- Some things were told before. -/
def after (told : List ω) (transcript : Transcript ω α σ) : Transcript ω α σ :=
  { transcript with told := told ++ transcript.told }

end Transcript

namespace Dialogue

variable {ω ψ α β σ δ : Type}

/-! ## Parts of dialogues -/

/-- Some things are told before. -/
def tellAll (told : List ω) (dialogue : Dialogue ω α) : Dialogue ω α := told.foldr tell dialogue

/-- Goes on with a result. -/
def bind : Dialogue ω α → (α → Dialogue ω β) → Dialogue ω β
  | done result, next => next result
  | tell told rest, next => tell told (rest.bind next)
  | ask request rest, next => ask request fun launched => (rest launched).bind next

/-- Makes something else of the result. -/
def map (change : α → β) (dialogue : Dialogue ω α) : Dialogue ω β := dialogue.bind (done ∘ change)

/-- Tells something else. -/
def retell (change : ω → ψ) : Dialogue ω α → Dialogue ψ α
  | done result => done result
  | tell told rest => tell (change told) (rest.retell change)
  | ask request rest => ask request fun launched => (rest launched).retell change

/-! ## With a launcher -/

/-- Carries a dialogue out with a launcher. -/
def run (launcher : Launcher σ) : Dialogue ω α → σ → Transcript ω α σ
  | done result, state => ⟨[], result, state⟩
  | tell told rest, state => (rest.run launcher state).after [told]
  | ask request rest, state =>
    let (launched, state) := launcher request state
    (rest launched).run launcher state

/-- Carries a dialogue out as far as the launcher comes back. -/
def venture (launch : Venture δ σ) : Dialogue ω α → σ → Transcript ω (Except δ α) σ
  | done result, state => ⟨[], .ok result, state⟩
  | tell told rest, state => (rest.venture launch state).after [told]
  | ask request rest, state =>
    match launch request state with
    | (.ok launched, state) => (rest launched).venture launch state
    | (.error departure, state) => ⟨[], .error departure, state⟩

end Dialogue

end Runbook
