import Runbook.Run.Dialogue

/-!
# Dialogues that are carried out

* `run_bind`, `run_retell`: parts of a dialogue are carried out one after the other.
* `Keeps` says that all requests of a dialogue have a property, and all that is told has another one,
  whatever comes of the launches. Both hold of each run (`mem_run`, `mem_venture`), and what is done with
  other requests makes no difference (`run_congr`, `venture_congr`).
* `run_of_venture`: a venture that comes back from each launch of a dialogue is a launcher, so that what
  holds of launchers holds of it. If it does not come back, its last launch is the one that did not
  (`exists_launch_of_departure`).
-/

namespace Runbook

variable {ω ψ α β σ δ : Type}

namespace Transcript

theorem after_after (before told : List ω) (transcript : Transcript ω α σ) :
    (transcript.after told).after before = transcript.after (before ++ told) := by
  rw [after, after, after, List.append_assoc]

end Transcript

namespace Dialogue

/-! ## Parts -/

section

variable (launcher : Launcher σ) (state : σ)

theorem run_tellAll (told : List ω) (dialogue : Dialogue ω α) :
    (tellAll told dialogue).run launcher state = (dialogue.run launcher state).after told := by
  induction told with
  | nil => rfl
  | cons first told ih =>
    rw [tellAll, List.foldr_cons, ← tellAll, run, ih, Transcript.after_after, List.singleton_append]

theorem run_bind (dialogue : Dialogue ω α) (next : α → Dialogue ω β) :
    (dialogue.bind next).run launcher state =
      let transcript := dialogue.run launcher state
      ((next transcript.result).run launcher transcript.state).after transcript.told := by
  induction dialogue generalizing state with
  | done result => rfl
  | tell told rest ih =>
    rw [bind, run, ih, run]
    dsimp only [Transcript.after]
    rw [List.append_assoc]
  | ask request rest ih =>
    rw [bind, run, run]
    exact ih _ _

theorem run_map (change : α → β) (dialogue : Dialogue ω α) :
    (dialogue.map change).run launcher state =
      let transcript := dialogue.run launcher state
      ⟨transcript.told, change transcript.result, transcript.state⟩ := by
  rw [map, run_bind]
  dsimp only [Function.comp, run, Transcript.after]
  rw [List.append_nil]

end

/-! ## What all requests have in common -/

/-- All requests, and all that is told, have a property. -/
def Keeps (asked : Request → Prop) (said : ω → Prop) : Dialogue ω α → Prop
  | done _ => True
  | tell told rest => said told ∧ rest.Keeps asked said
  | ask request rest => asked request ∧ ∀ launched, (rest launched).Keeps asked said

section

variable {asked : Request → Prop} {said : ω → Prop} {dialogue : Dialogue ω α}

theorem keeps_tellAll {told : List ω} (htold : ∀ one ∈ told, said one) (h : dialogue.Keeps asked said) :
    (tellAll told dialogue).Keeps asked said := by
  induction told with
  | nil => exact h
  | cons first told ih =>
    rw [List.forall_mem_cons] at htold
    exact ⟨htold.1, ih htold.2⟩

theorem keeps_bind {next : α → Dialogue ω β} (h : dialogue.Keeps asked said)
    (hnext : ∀ result, (next result).Keeps asked said) : (dialogue.bind next).Keeps asked said := by
  induction dialogue with
  | done result => exact hnext result
  | tell told rest ih => exact ⟨h.1, ih h.2⟩
  | ask request rest ih => exact ⟨h.1, fun launched => ih launched (h.2 launched)⟩

theorem keeps_map {change : α → β} (h : dialogue.Keeps asked said) :
    (dialogue.map change).Keeps asked said :=
  keeps_bind h fun _ => trivial

theorem mem_run (h : dialogue.Keeps asked said) {launcher : Launcher σ} {state : σ} {one : ω}
    (hone : one ∈ (dialogue.run launcher state).told) : said one := by
  induction dialogue generalizing state with
  | done result => cases hone
  | tell told rest ih =>
    rcases List.mem_cons.mp hone with rfl | hone
    · exact h.1
    · exact ih h.2 hone
  | ask request rest ih => exact ih _ (h.2 _) hone

theorem mem_venture (h : dialogue.Keeps asked said) {launch : Venture δ σ} {state : σ} {one : ω}
    (hone : one ∈ (dialogue.venture launch state).told) : said one := by
  induction dialogue generalizing state with
  | done result => cases hone
  | tell told rest ih =>
    rcases List.mem_cons.mp hone with rfl | hone
    · exact h.1
    · exact ih h.2 hone
  | ask request rest ih =>
    rw [venture] at hone
    split at hone
    · exact ih _ (h.2 _) hone
    · cases hone

theorem run_congr (h : dialogue.Keeps asked said) {launcher other : Launcher σ}
    (hsame : ∀ request, asked request → other request = launcher request) (state : σ) :
    dialogue.run other state = dialogue.run launcher state := by
  induction dialogue generalizing state with
  | done result => rfl
  | tell told rest ih => rw [run, ih h.2, run]
  | ask request rest ih =>
    rw [run, hsame request h.1, run]
    exact ih _ (h.2 _) _

theorem venture_congr (h : dialogue.Keeps asked said) {launch other : Venture δ σ}
    (hsame : ∀ request, asked request → other request = launch request) (state : σ) :
    dialogue.venture other state = dialogue.venture launch state := by
  induction dialogue generalizing state with
  | done result => rfl
  | tell told rest ih => rw [venture, ih h.2, venture]
  | ask request rest ih =>
    rw [venture, hsame request h.1, venture]
    split
    · exact ih _ (h.2 _) _
    · rfl

end

/-! ## Ventures that come back, and others -/

/-- A launcher does what a venture does wherever that comes back. -/
def Follows (launcher : Launcher σ) (launch : Venture δ σ) : Prop :=
  ∀ request state launched next, launch request state = (.ok launched, next) →
    launcher request state = (launched, next)

theorem run_of_venture {launcher : Launcher σ} {launch : Venture δ σ} (h : Follows launcher launch)
    {dialogue : Dialogue ω α} {state : σ} {result : α}
    (hback : (dialogue.venture launch state).result = .ok result) :
    dialogue.run launcher state =
      ⟨(dialogue.venture launch state).told, result, (dialogue.venture launch state).state⟩ := by
  induction dialogue generalizing state with
  | done own =>
    cases hback
    rfl
  | tell told rest ih =>
    rw [run, ih hback]
    rfl
  | ask request rest ih =>
    rw [venture] at hback ⊢
    split at hback
    · rename_i launched next hlaunch
      rw [run, h _ _ _ _ hlaunch]
      exact ih _ hback
    · cases hback

/-- Where a venture departs, nothing is done behind the launch from which it did not come back. -/
theorem exists_launch_of_departure {launch : Venture δ σ} {dialogue : Dialogue ω α} {state : σ}
    {departure : δ} (h : (dialogue.venture launch state).result = .error departure) :
    ∃ request before,
      launch request before = (.error departure, (dialogue.venture launch state).state) := by
  induction dialogue generalizing state with
  | done result => cases h
  | tell told rest ih => exact ih h
  | ask request rest ih =>
    rw [venture] at h ⊢
    split at h
    · exact ih _ h
    · rename_i other next hlaunch
      cases h
      exact ⟨request, state, hlaunch⟩

end Dialogue

end Runbook
