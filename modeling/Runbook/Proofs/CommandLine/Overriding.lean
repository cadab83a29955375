import Runbook.CommandLine.Setup
import Runbook.Proofs.Config.Lookup

/-!
# What the command line overrides

A setting that the command line gives makes that of the configuration void, but a configuration must be
sound to be laid over a runner at all.

* `Settings.leaves` is what the command line leaves of a configuration.
* `Config.misnamed?` is the name that a configuration gives for an encoding, if no encoding has it. Such
  a configuration is refused, whatever the command line gives (`setup_of_misnamed`).
* `setup_eq_of_leaves_eq`: for all others, only what is left of them counts.
-/

namespace Runbook

/-- The name that is given for an encoding and is none. -/
def Config.misnamed? (config : Config) : Option String :=
  config.encoding.filter fun name => (Encoding.parse? name).isNone

theorem Config.namedEncoding_of_none {name : String} (h : Encoding.parse? name = none) :
    namedEncoding name = .error (.misuse (.unknownEncoding name)) := by
  rw [namedEncoding, h]

theorem Config.misnamed?_eq_some_iff {config : Config} {name : String} :
    config.misnamed? = some name ↔ config.encoding = some name ∧ Encoding.parse? name = none := by
  rw [misnamed?, Option.filter_eq_some_iff, Option.isNone_iff_eq_none]

/-- A configuration is laid over a runner unless it names an encoding that is none. -/
theorem Config.chosenEncoding_eq_ok {config : Config} (h : config.misnamed? = none)
    (runner : Runner) : ∃ encoding, config.chosenEncoding runner = .ok encoding := by
  unfold chosenEncoding
  cases hname : config.encoding with
  | none => exact ⟨_, rfl⟩
  | some name =>
    cases hparse : Encoding.parse? name with
    | some encoding => exact ⟨encoding, by simp only [namedEncoding, hparse]⟩
    | none =>
      rw [Config.misnamed?_eq_some_iff.mpr ⟨hname, hparse⟩] at h
      cases h

/-- The only file is found if it is the nearest candidate. -/
theorem Config.discover_only {start path text : String} {config : Config}
    (hread : read? text = some config) (hfind : (candidates start).find? (· == path) = some path) :
    discover (.only path text) start = .ok { config with cwd := config.cwd.map (besides path) } := by
  have hfound : find? (.only path text) start = some path := (find?_eq_candidates _ start).trans hfind
  rw [discover_of_find? hfound, load, FileView.readText_only]
  dsimp only
  rw [hread]

namespace CommandLine

/-- What the command line leaves of a configuration. -/
def Settings.leaves (settings : Settings) (config : Config) : Config :=
  { config with
    echo := if settings.echo.isSome then none else config.echo
    onFailure := if settings.keepGoing || settings.onFailure.isSome then none else config.onFailure
    encoding := if settings.encoding.isSome then none else config.encoding
    cwd := if settings.cwd.isSome then none else config.cwd }

/-- What becomes of a runner over which a configuration is laid, and then what the command line gives. -/
def Settings.layer (settings : Settings) (config : Config) (runner : Runner) : Except Fault Runner := do
  settings.applyTo (← (config.apply runner).mapError Fault.bare)

theorem setup_eq_layer {surroundings : Surroundings} {primitive : Primitive} {settings : Settings}
    {config : Config} (hload : Config.discover surroundings.files surroundings.directory = .ok config)
    (hconfig : settings.noConfig = false) :
    setup surroundings primitive settings = settings.layer config { primitive } := by
  rw [setup, configured, hconfig, hload]
  rfl

namespace Settings

variable {settings : Settings} {config other : Config}

theorem echoOver_leaves (echo : Echo) :
    settings.echoOver (((settings.leaves config).echo.map Toggle.toEcho).getD echo) =
      settings.echoOver ((config.echo.map Toggle.toEcho).getD echo) := by
  unfold echoOver leaves
  cases settings.echo <;> rfl

theorem onFailureOver_leaves (policy : OnFailure) :
    settings.onFailureOver (((settings.leaves config).onFailure.map Toggle.toOnFailure).getD policy) =
      settings.onFailureOver ((config.onFailure.map Toggle.toOnFailure).getD policy) := by
  unfold onFailureOver leaves
  cases settings.keepGoing <;> cases settings.onFailure <;> rfl

theorem optionsOver_leaves (options : Options) :
    settings.optionsOver ((settings.leaves config).overOptions options) =
      settings.optionsOver (config.overOptions options) := by
  unfold optionsOver Config.overOptions leaves
  cases settings.cwd <;> rfl

/-- A configuration is laid over a runner as far as the command line leaves it, if it has an encoding or
if that is not overridden. -/
theorem layer_leaves (h : settings.encoding.isSome → config.misnamed? = none) (runner : Runner) :
    settings.layer (settings.leaves config) runner = settings.layer config runner := by
  have hrest : ∀ chosen left : Encoding,
      settings.encodingOver chosen = settings.encodingOver left →
      settings.applyTo { runner with
          echo := ((settings.leaves config).echo.map Toggle.toEcho).getD runner.echo
          onFailure := ((settings.leaves config).onFailure.map Toggle.toOnFailure).getD runner.onFailure
          encoding := left
          options := (settings.leaves config).overOptions runner.options } =
        settings.applyTo { runner with
          echo := (config.echo.map Toggle.toEcho).getD runner.echo
          onFailure := (config.onFailure.map Toggle.toOnFailure).getD runner.onFailure
          encoding := chosen
          options := config.overOptions runner.options } := by
    intro chosen left hencoding
    unfold applyTo
    dsimp only
    rw [echoOver_leaves, onFailureOver_leaves, optionsOver_leaves, hencoding]
  unfold layer Config.apply
  cases hgiven : settings.encoding with
  | none =>
    have hsame : (settings.leaves config).chosenEncoding runner = config.chosenEncoding runner := by
      simp [Config.chosenEncoding, leaves, hgiven]
    rw [hsame]
    cases config.chosenEncoding runner with
    | error error => rfl
    | ok encoding => exact hrest encoding encoding rfl
  | some name =>
    have hleft : (settings.leaves config).chosenEncoding runner = .ok runner.encoding := by
      simp [Config.chosenEncoding, leaves, hgiven]
    obtain ⟨encoding, hchosen⟩ := Config.chosenEncoding_eq_ok (h (by simp [hgiven])) runner
    rw [hleft, hchosen]
    exact hrest encoding runner.encoding (by simp only [encodingOver, hgiven])

theorem layer_of_misnamed {name : String} (h : config.misnamed? = some name) (runner : Runner) :
    settings.layer config runner = .error (.bare (.misuse (.unknownEncoding name))) := by
  obtain ⟨hname, hparse⟩ := Config.misnamed?_eq_some_iff.mp h
  rw [layer, Config.apply, Config.chosenEncoding, hname]
  dsimp only
  rw [Config.namedEncoding_of_none hparse]
  rfl

end Settings

/-- **The command line overrides the configuration.** Two configurations of which it leaves the same come
to the same runner or to the same failure. Only where it overrides the encoding, that of the
configuration must still be looked at: one that names an encoding that is none is refused, whatever the
command line gives. -/
theorem setup_eq_of_leaves_eq {surroundings others : Surroundings} {config other : Config}
    (primitive : Primitive) (settings : Settings)
    (hconfig : Config.discover surroundings.files surroundings.directory = .ok config)
    (hother : Config.discover others.files others.directory = .ok other)
    (hleaves : settings.leaves config = settings.leaves other) :
    ((settings.encoding.isSome → config.misnamed? = other.misnamed?) →
      setup surroundings primitive settings = setup others primitive settings) ∧
    ∀ name, config.misnamed? = some name → settings.noConfig = false →
      setup surroundings primitive settings = .error (.bare (.misuse (.unknownEncoding name))) := by
  refine ⟨fun hnames => ?_, fun name hname hno => ?_⟩
  · cases hno : settings.noConfig with
    | true => rw [setup, setup, configured, configured, hno, if_pos rfl, if_pos rfl]
    | false =>
      rw [setup_eq_layer hconfig hno, setup_eq_layer hother hno]
      have hsame : config.misnamed? = other.misnamed? := by
        cases hgiven : settings.encoding with
        | some name => exact hnames (by rw [hgiven]; rfl)
        | none =>
          have hencoding := congrArg Config.encoding hleaves
          simp only [Settings.leaves, hgiven, Option.isSome_none, Bool.false_eq_true, if_false] at hencoding
          rw [Config.misnamed?, Config.misnamed?, hencoding]
      cases hmisnamed : config.misnamed? with
      | some name =>
        rw [Settings.layer_of_misnamed hmisnamed, Settings.layer_of_misnamed (hsame ▸ hmisnamed)]
      | none =>
        rw [← Settings.layer_leaves (fun _ => hmisnamed), hleaves,
          Settings.layer_leaves fun _ => hsame ▸ hmisnamed]
  · rw [setup_eq_layer hconfig hno, Settings.layer_of_misnamed hname]

/-- All that can be overridden is overridden, in each of two configurations that differ. -/
theorem setup_eq_of_leaves_eq_all :
    let settings : Settings :=
      { echo := some "+", onFailure := some "!", encoding := some "bytes", cwd := some "/tmp" }
    let surroundings : Surroundings :=
      ⟨.only "/.runs.json" "\x7b\"echo\": true, \"encoding\": \"utf8\"\x7d", "/"⟩
    let others : Surroundings :=
      ⟨.only "/a/runs.json" "\x7b\"on_exception\": true, \"cwd\": \"x\"\x7d", "/a/b"⟩
    Config.discover surroundings.files surroundings.directory =
        .ok { echo := some (.switch true), encoding := some "utf8" } ∧
      Config.discover others.files others.directory =
        .ok { onFailure := some (.switch true), cwd := some (Config.besides "/a/runs.json" "x") } ∧
      setup surroundings .call settings = setup others .call settings ∧
      setup others .call settings =
        .ok { primitive := .call, echo := .labelled "+", onFailure := .labelled "!", encoding := .bytes,
              options := { cwd := some "/tmp" } } := by
  intro settings surroundings others
  have hread : Config.read? "\x7b\"echo\": true, \"encoding\": \"utf8\"\x7d" =
      some { echo := some (.switch true), encoding := some "utf8" } := by decide +kernel
  have hreadOther : Config.read? "\x7b\"on_exception\": true, \"cwd\": \"x\"\x7d" =
      some { onFailure := some (.switch true), cwd := some "x" } := by decide +kernel
  have hconfig : Config.discover surroundings.files surroundings.directory = _ :=
    Config.discover_only hread (by cbv)
  have hother : Config.discover others.files others.directory = _ :=
    Config.discover_only hreadOther (by cbv)
  obtain ⟨hsetup, -⟩ := setup_eq_of_leaves_eq .call settings hconfig hother (by rfl)
  refine ⟨hconfig, hother, hsetup fun _ => by rfl, ?_⟩
  rw [setup_eq_layer hother rfl]
  rfl

/-- An overridden encoding still counts: configurations that differ in nothing else come to a runner and
to a refusal. -/
theorem setup_ne_of_misnamed :
    let settings : Settings := { encoding := some "utf8" }
    let surroundings : Surroundings := ⟨.only "/.runs.json" "\x7b\"encoding\": \"bytes\"\x7d", "/"⟩
    let others : Surroundings := ⟨.only "/.runs.json" "\x7b\"encoding\": \"klingon\"\x7d", "/"⟩
    Config.discover surroundings.files surroundings.directory = .ok { encoding := some "bytes" } ∧
      Config.discover others.files others.directory = .ok { encoding := some "klingon" } ∧
      setup surroundings .call settings = .ok { primitive := .call } ∧
      setup others .call settings = .error (.bare (.misuse (.unknownEncoding "klingon"))) := by
  intro settings surroundings others
  have hread : Config.read? "\x7b\"encoding\": \"bytes\"\x7d" = some { encoding := some "bytes" } := by
    decide +kernel
  have hreadOther : Config.read? "\x7b\"encoding\": \"klingon\"\x7d" =
      some { encoding := some "klingon" } := by decide +kernel
  have hconfig : Config.discover surroundings.files surroundings.directory = _ :=
    Config.discover_only hread (by cbv)
  have hother : Config.discover others.files others.directory = _ :=
    Config.discover_only hreadOther (by cbv)
  refine ⟨hconfig, hother, ?_, ?_⟩
  · rw [setup_eq_layer hconfig rfl]
    rfl
  · rw [setup_eq_layer hother rfl]
    exact Settings.layer_of_misnamed (by decide +kernel) _

end CommandLine

end Runbook
