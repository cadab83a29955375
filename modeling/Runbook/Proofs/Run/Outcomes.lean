import Runbook.Run.Invoke
import Runbook.Proofs.Launch.Encoding

/-!
# The outcome of one launch

`Primitive.invoke_outcomes`: what a primitive makes of each reply of the launcher, and when.

* A failing exit (`Fails`) comes before everything that may be wrong with the captured bytes, so `judge`
  is taken apart there first.
* Behind it the streams that the primitive returns are read one after the other. The first that is no text
  gives the flaw that `report` fails with (`report_of_flaw`); without one there is a completion
  (`exists_reports`).
-/

namespace Runbook

open Utf8 (Flaw WellFormed)

/-! ## Streams that are no text -/

namespace Encoding

theorem decode_eq_error_iff {encoding : Encoding} {stream : Bytes} {flaw : Flaw} :
    encoding.decode stream = .error flaw ↔ encoding = .utf8 ∧ text? stream = .error flaw := by
  cases encoding with
  | utf8 => rw [decode_utf8_eq_error_iff, and_iff_right rfl]
  | utf8Lossy => exact ⟨fun h => (nomatch h), fun h => (nomatch h.1)⟩
  | bytes => exact ⟨fun h => (nomatch h), fun h => (nomatch h.1)⟩

/-- What keeps a stream from being read. -/
def flaw? (encoding : Encoding) (stream : Bytes) : Option Flaw :=
  match encoding.decode stream with
  | .ok _ => none
  | .error flaw => some flaw

theorem flaw?_eq_some_iff {encoding : Encoding} {stream : Bytes} {flaw : Flaw} :
    encoding.flaw? stream = some flaw ↔ encoding.decode stream = .error flaw := by
  rw [flaw?]
  cases encoding.decode stream with
  | ok captured => exact ⟨fun h => (nomatch h), fun h => (nomatch h)⟩
  | error other =>
    exact ⟨fun h => congrArg _ (Option.some.inj h), fun h => congrArg _ (Except.error.inj h)⟩

theorem exists_decode_of_flaw?_eq_none {encoding : Encoding} {stream : Bytes}
    (h : encoding.flaw? stream = none) : ∃ captured, encoding.decode stream = .ok captured := by
  rw [flaw?] at h
  cases hread : encoding.decode stream with
  | ok captured => exact ⟨captured, rfl⟩
  | error flaw =>
    rw [hread] at h
    cases h

/-- Only strict reading fails, and it does on the bytes that are not well formed. -/
theorem flaw?_eq_none_iff {encoding : Encoding} {stream : Bytes} :
    encoding.flaw? stream = none ↔ (encoding = .utf8 → WellFormed stream) := by
  cases encoding with
  | utf8 =>
    constructor
    · intro h _
      exact exists_decode_utf8_iff.mp (exists_decode_of_flaw?_eq_none h)
    · intro h
      obtain ⟨captured, hread⟩ := exists_decode_utf8_iff.mpr (h rfl)
      rw [flaw?, hread]
  | utf8Lossy => exact ⟨fun _ h => (nomatch h), fun _ => rfl⟩
  | bytes => exact ⟨fun _ h => (nomatch h), fun _ => rfl⟩

end Encoding

/-- A launcher that also notes what it is asked for. -/
def Launcher.noting {σ : Type} (launcher : Launcher σ) : Launcher (σ × List Request) :=
  fun request (state, asked) =>
    let (launched, state) := launcher request state
    (launched, state, asked ++ [request])

namespace Primitive

variable {primitive : Primitive} {options : Options} {encoding : Encoding} {invocation : Invocation}
  {output : Output}

/-- The exit status is not zero, and the primitive minds. -/
def Fails (primitive : Primitive) (options : Options) (output : Output) : Prop :=
  output.code ≠ 0 ∧
    (primitive = checkCall ∨ primitive = checkOutput ∨ primitive = run ∧ options.check = true)

/-- The captured streams that a completion shows, in the order in which they are read. -/
def returned (primitive : Primitive) (output : Output) : List Bytes :=
  match primitive with
  | call | checkCall => []
  | checkOutput => output.stdout.toList
  | run => output.stdout.toList ++ output.stderr.toList

/-- A captured stream and what is shown of it. -/
def Shows (encoding : Encoding) : Option Bytes → Option Captured → Prop :=
  Option.Rel fun stream captured => encoding.decode stream = .ok captured

/-- The completion that a primitive gives for an output. -/
inductive Reports (encoding : Encoding) (invocation : Invocation) (output : Output) :
    Primitive → Completion → Prop
  | call : Reports encoding invocation output .call (.status output.code)
  | checkCall (hcode : output.code = 0) : Reports encoding invocation output .checkCall (.status 0)
  | checkOutput {captured : Captured} (hcode : output.code = 0)
    (hstdout : encoding.decode (output.stdout.getD []) = .ok captured) :
    Reports encoding invocation output .checkOutput (.output captured)
  | run {stdout stderr : Option Captured} (hstdout : Shows encoding output.stdout stdout)
    (hstderr : Shows encoding output.stderr stderr) :
    Reports encoding invocation output .run (.completed ⟨invocation, output.code, stdout, stderr⟩)

/-! ## Errors of the launcher -/

theorem launchFailure_of_timedOut {error : IoError} {limit : Number.Duration}
    (hkind : error.kind = .timedOut) (hlimit : options.timeout = some limit) :
    launchFailure options invocation error = .timeout invocation.program limit := by
  rw [launchFailure, hlimit]
  exact if_pos hkind

theorem launchFailure_of_not {error : IoError}
    (h : ¬ (error.kind = .timedOut ∧ ∃ limit, options.timeout = some limit)) :
    launchFailure options invocation error = .launch invocation.program error := by
  rw [launchFailure]
  cases hlimit : options.timeout with
  | none => rfl
  | some limit => exact if_neg fun hkind => h ⟨hkind, limit, hlimit⟩

/-! ## Failing exits -/

theorem checksStatus_iff :
    primitive.checksStatus options = true ↔
      primitive = checkCall ∨ primitive = checkOutput ∨ primitive = run ∧ options.check = true := by
  cases primitive <;> simp [checksStatus]

theorem judge_of_fails (h : primitive.Fails options output) :
    primitive.judge options encoding invocation (.ok output) =
      .error (.exit output.code (output.stderr.map textLossy)) :=
  if_pos ⟨h.1, checksStatus_iff.mpr h.2⟩

theorem judge_of_not_fails (h : ¬ primitive.Fails options output) :
    primitive.judge options encoding invocation (.ok output) =
      (primitive.report invocation encoding output).mapError .decode :=
  if_neg fun hfails => h ⟨hfails.1, checksStatus_iff.mp hfails.2⟩

theorem code_eq_zero_of_not_fails (h : ¬ primitive.Fails options output)
    (hminds : primitive = checkCall ∨ primitive = checkOutput) : output.code = 0 := by
  refine Decidable.not_not.mp fun hcode => h ⟨hcode, ?_⟩
  rcases hminds with hcall | houtput
  · exact .inl hcall
  · exact .inr (.inl houtput)

/-! ## Reading the streams -/

theorem findSome?_toList {α β : Type} (f : α → Option β) (x : Option α) :
    x.toList.findSome? f = x.bind f := by
  cases x with
  | none => rfl
  | some a => rw [Option.toList_some, List.findSome?_singleton, Option.bind_some]

theorem decodeStream_of_flaw {stream : Option Bytes} {flaw : Flaw}
    (h : stream.bind encoding.flaw? = some flaw) : decodeStream encoding stream = .error flaw := by
  obtain ⟨bytes, rfl, hflaw⟩ := Option.bind_eq_some_iff.mp h
  rw [decodeStream, Encoding.flaw?_eq_some_iff.mp hflaw]
  rfl

theorem exists_shows {stream : Option Bytes} (h : stream.bind encoding.flaw? = none) :
    ∃ captured, decodeStream encoding stream = .ok captured ∧ Shows encoding stream captured := by
  cases stream with
  | none => exact ⟨none, rfl, .none⟩
  | some bytes =>
    obtain ⟨captured, hread⟩ := Encoding.exists_decode_of_flaw?_eq_none h
    exact ⟨some captured, by rw [decodeStream, hread]; rfl, .some hread⟩

/-- The first flaw in the returned streams is what is reported. -/
theorem report_of_flaw {flaw : Flaw}
    (h : (primitive.returned output).findSome? encoding.flaw? = some flaw) :
    primitive.report invocation encoding output = .error flaw := by
  cases primitive with
  | call => cases h
  | checkCall => cases h
  | checkOutput =>
    rw [returned, findSome?_toList] at h
    obtain ⟨bytes, hstdout, hflaw⟩ := Option.bind_eq_some_iff.mp h
    rw [report, hstdout, Option.getD_some, Encoding.flaw?_eq_some_iff.mp hflaw]
    rfl
  | run =>
    rw [returned, List.findSome?_append, findSome?_toList, findSome?_toList] at h
    rw [report]
    cases hstdout : output.stdout.bind encoding.flaw? with
    | some first =>
      rw [hstdout] at h
      obtain rfl := Option.some.inj h
      rw [decodeStream_of_flaw hstdout]
      rfl
    | none =>
      rw [hstdout, Option.none_or] at h
      obtain ⟨captured, hread, -⟩ := exists_shows hstdout
      rw [hread, decodeStream_of_flaw h]
      rfl

/-- Without a flaw in the returned streams there is a completion. -/
theorem exists_reports (invocation : Invocation) (hfails : ¬ primitive.Fails options output)
    (h : (primitive.returned output).findSome? encoding.flaw? = none) :
    ∃ completion, primitive.report invocation encoding output = .ok completion ∧
      Reports encoding invocation output primitive completion := by
  cases primitive with
  | call => exact ⟨_, rfl, .call⟩
  | checkCall =>
    have hcode := code_eq_zero_of_not_fails hfails (.inl rfl)
    exact ⟨.status 0, by rw [report, hcode], .checkCall hcode⟩
  | checkOutput =>
    have hcode := code_eq_zero_of_not_fails hfails (.inr rfl)
    obtain ⟨captured, hread⟩ : ∃ captured, encoding.decode (output.stdout.getD []) = .ok captured := by
      apply Encoding.exists_decode_of_flaw?_eq_none
      rw [returned, findSome?_toList] at h
      cases hstdout : output.stdout with
      | none => exact Encoding.flaw?_eq_none_iff.mpr fun _ => .nil
      | some bytes =>
        rw [hstdout] at h
        exact h
    exact ⟨.output captured, by rw [report, hread]; rfl, .checkOutput hcode hread⟩
  | run =>
    rw [returned, List.findSome?_append, findSome?_toList, findSome?_toList, Option.or_eq_none_iff] at h
    obtain ⟨stdout, hstdout, hshown⟩ := exists_shows h.1
    obtain ⟨stderr, hstderr, hshown'⟩ := exists_shows h.2
    refine ⟨.completed ⟨invocation, output.code, stdout, stderr⟩, ?_, .run hshown hshown'⟩
    rw [report, hstdout, hstderr]
    rfl

/-! ## The streams that are no text -/

theorem findSome?_flaw?_eq_none_iff {streams : List Bytes} :
    streams.findSome? encoding.flaw? = none ↔
      ¬ (encoding = .utf8 ∧ ∃ stream ∈ streams, ¬ WellFormed stream) := by
  rw [List.findSome?_eq_none_iff]
  constructor
  · rintro h ⟨hutf8, stream, hstream, hnot⟩
    exact hnot (Encoding.flaw?_eq_none_iff.mp (h stream hstream) hutf8)
  · intro h stream hstream
    refine Encoding.flaw?_eq_none_iff.mpr fun hutf8 => Classical.not_not.mp fun hnot => ?_
    exact h ⟨hutf8, stream, hstream, hnot⟩

/-- The flaw that is met is that of the first stream that is no text. -/
theorem exists_of_findSome?_flaw? {streams : List Bytes} {flaw : Flaw}
    (h : streams.findSome? encoding.flaw? = some flaw) :
    encoding = .utf8 ∧ ∃ before stream after, streams = before ++ stream :: after ∧
      (∀ earlier ∈ before, WellFormed earlier) ∧ ¬ WellFormed stream ∧
        text? stream = .error flaw := by
  obtain ⟨before, stream, after, hstreams, hflaw, hbefore⟩ := List.findSome?_eq_some_iff.mp h
  obtain ⟨rfl, hread⟩ : encoding = .utf8 ∧ text? stream = .error flaw :=
    Encoding.decode_eq_error_iff.mp (Encoding.flaw?_eq_some_iff.mp hflaw)
  refine ⟨rfl, before, stream, after, hstreams, fun earlier hearlier => ?_, fun hwell => ?_, hread⟩
  · exact Encoding.flaw?_eq_none_iff.mp (hbefore earlier hearlier) rfl
  · rw [Encoding.flaw?_eq_none_iff.mpr fun _ => hwell] at hflaw
    cases hflaw

/-! ## One launch -/

/-- **The outcome of one launch.** The launcher is asked once. An error of the launcher is a failure of its
own; a failing exit comes before every flaw of the captured bytes; the first flaw of a returned stream
comes before a completion. -/
theorem invoke_outcomes {σ : Type} (primitive : Primitive) (launcher : Launcher σ)
    (invocation : Invocation) (options : Options) (encoding : Encoding) (state : σ)
    (asked : List Request) :
    let request : Request := ⟨invocation, options, primitive.capture options⟩
    let launched := (launcher request state).1
    let result := (primitive.invoke launcher invocation options encoding state).1
    primitive.invoke launcher.noting invocation options encoding (state, asked) =
      (result, launched, (launcher request state).2, asked ++ [request]) ∧
    (∀ error, launched.outcome = .error error →
      (∀ limit, error.kind = .timedOut → options.timeout = some limit →
        result = .error (.timeout invocation.program limit)) ∧
      (¬ (error.kind = .timedOut ∧ ∃ limit, options.timeout = some limit) →
        result = .error (.launch invocation.program error))) ∧
    (∀ output, launched.outcome = .ok output →
      ((∃ code stderr, result = .error (.exit code stderr)) ↔ primitive.Fails options output) ∧
      (primitive.Fails options output →
        result = .error (.exit output.code (output.stderr.map textLossy))) ∧
      ((∃ flaw, result = .error (.decode flaw)) ↔ ¬ primitive.Fails options output ∧
        encoding = .utf8 ∧ ∃ stream ∈ primitive.returned output, ¬ WellFormed stream) ∧
      (∀ flaw, result = .error (.decode flaw) →
        ∃ before stream after, primitive.returned output = before ++ stream :: after ∧
          (∀ earlier ∈ before, WellFormed earlier) ∧ ¬ WellFormed stream ∧
          text? stream = .error flaw) ∧
      (¬ primitive.Fails options output →
        ¬ (encoding = .utf8 ∧ ∃ stream ∈ primitive.returned output, ¬ WellFormed stream) →
        ∃ completion, result = .ok completion ∧
          Reports encoding invocation output primitive completion)) := by
  intro request launched result
  have hresult : result = primitive.judge options encoding invocation launched.outcome := rfl
  refine ⟨rfl, fun error herror => ?_, fun output houtput => ?_⟩
  · rw [hresult, herror]
    exact ⟨fun limit hkind hlimit => congrArg _ (launchFailure_of_timedOut hkind hlimit),
      fun h => congrArg _ (launchFailure_of_not h)⟩
  rw [hresult, houtput]
  by_cases hfails : primitive.Fails options output
  · rw [judge_of_fails hfails]
    refine ⟨⟨fun _ => hfails, fun _ => ⟨_, _, rfl⟩⟩, fun _ => rfl,
      ⟨?_, fun h => absurd hfails h.1⟩, ?_, fun h => absurd hfails h⟩
    · rintro ⟨flaw, h⟩
      cases h
    · intro flaw h
      cases h
  rw [judge_of_not_fails hfails]
  cases hread : (primitive.returned output).findSome? encoding.flaw? with
  | some first =>
    obtain ⟨hutf8, before, stream, after, hreturned, hbefore, hstream, hflaw⟩ :=
      exists_of_findSome?_flaw? hread
    have hmem : stream ∈ primitive.returned output := by
      rw [hreturned]
      exact List.mem_append_right _ List.mem_cons_self
    rw [report_of_flaw hread]
    refine ⟨⟨?_, fun h => absurd h hfails⟩, fun h => absurd h hfails,
      ⟨fun _ => ⟨hfails, hutf8, stream, hmem, hstream⟩, fun _ => ⟨first, rfl⟩⟩, ?_,
      fun _ h => absurd ⟨hutf8, stream, hmem, hstream⟩ h⟩
    · rintro ⟨code, stderr, h⟩
      cases h
    · intro flaw h
      obtain rfl := Failure.decode.inj (Except.error.inj h)
      exact ⟨before, stream, after, hreturned, hbefore, hstream, hflaw⟩
  | none =>
    have hwell := findSome?_flaw?_eq_none_iff.mp hread
    obtain ⟨completion, hreport, hreports⟩ := exists_reports invocation hfails hread
    rw [hreport]
    refine ⟨⟨?_, fun h => absurd h hfails⟩, fun h => absurd h hfails,
      ⟨?_, fun h => absurd h.2 hwell⟩, ?_, fun _ _ => ⟨completion, rfl, hreports⟩⟩
    · rintro ⟨code, stderr, h⟩
      cases h
    · rintro ⟨flaw, h⟩
      cases h
    · intro flaw h
      cases h

end Primitive

end Runbook
