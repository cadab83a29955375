import Runbook.Proofs.CommandLine.Modes
import Runbook.Proofs.CommandLine.Overriding
import Runbook.Proofs.Host.Environment

/-!
# The variables that a command line gives to children

A configuration gives variables, and the command line gives pairs that come after them.

* `pair?_eq_some_iff`: how an argument is cut into a name and a value. Nothing that comes of this is a bad
  name (`isBadVariable_of_pair?`).
* `Config.prepare_apply_apply`: a configuration that is laid over a runner twice starts the children of one
  that is laid over it once.
* `environment_of_children`: what a child sees under a name.
-/

namespace Runbook

open Host (Site octets)

/-! ## Names of variables -/

theorem isBadVariable_iff {name : String} :
    isBadVariable name = true ↔ name = "" ∨ '=' ∈ name.toList ∨ '\x00' ∈ name.toList := by
  rw [isBadVariable, Bool.or_eq_true, Bool.or_eq_true, String.isEmpty_iff, List.contains_iff_mem,
    List.contains_iff_mem, or_assoc]

namespace CommandLine

/-- An argument is cut at its first equals sign, behind a name that is not empty. -/
theorem pair?_eq_some_iff {text name value : String} :
    pair? text = some (name, value) ↔
      text = name ++ "=" ++ value ∧ name ≠ "" ∧ '=' ∉ name.toList := by
  unfold pair?
  dsimp only
  constructor
  · intro h
    have hsplit := text.toList.takeWhile_append_dropWhile (p := (· != '='))
    have hhead := List.head?_dropWhile_not (· != '=') text.toList
    cases hrest : text.toList.dropWhile (· != '=') with
    | nil =>
      rw [hrest] at h
      cases h
    | cons c rest =>
      rw [hrest] at h hsplit hhead
      dsimp only at h
      split_ifs at h with hempty
      obtain ⟨rfl, rfl⟩ := Prod.mk.inj (Option.some.inj h)
      have hc : c = '=' := by simpa using hhead
      refine ⟨?_, fun hname => hempty ?_, fun hmem => ?_⟩
      · rw [← String.toList_inj, Site.toList_spelled (String.ofList _, String.ofList rest),
          String.toList_ofList, String.toList_ofList]
        rw [hc] at hsplit
        exact hsplit.symm
      · simpa using hname
      · rw [String.toList_ofList] at hmem
        simpa using List.all_eq_true.mp List.all_takeWhile _ hmem
  · rintro ⟨rfl, hempty, hequals⟩
    have hname : ∀ c ∈ name.toList, (c != '=') = true := by
      intro c hc
      rw [bne_iff_ne]
      rintro rfl
      exact hequals hc
    rw [Site.toList_spelled (name, value), List.takeWhile_append_of_pos hname,
      List.dropWhile_append_of_pos hname]
    simpa using hempty

theorem isBadVariable_of_pair? {argument : String} {pair : String × String}
    (h : pair? argument = some pair) (hzero : '\x00' ∉ argument.toList) :
    isBadVariable pair.1 = false := by
  obtain ⟨hargument, hempty, hequals⟩ := pair?_eq_some_iff.mp h
  rw [← Bool.not_eq_true, isBadVariable_iff]
  rintro (hname | hname | hname)
  · exact hempty hname
  · exact hequals hname
  · rw [hargument, String.toList_append, String.toList_append] at hzero
    exact hzero (List.mem_append_left _ (List.mem_append_left _ hname))

theorem exists_of_mem_mapM {arguments : List String} {pairs : List (String × String)}
    (h : arguments.mapM pair? = some pairs) :
    ∀ pair ∈ pairs, ∃ argument ∈ arguments, pair? argument = some pair := by
  induction arguments generalizing pairs with
  | nil =>
    obtain rfl := Option.some.inj h
    intro pair hpair
    cases hpair
  | cons argument arguments ih =>
    rw [List.mapM_cons] at h
    obtain ⟨first, hfirst, hbound⟩ := Option.bind_eq_some_iff.mp h
    obtain ⟨rest, hrest, hpairs⟩ := Option.bind_eq_some_iff.mp hbound
    obtain rfl := Option.some.inj hpairs
    intro pair hpair
    rcases List.mem_cons.mp hpair with rfl | hpair
    · exact ⟨argument, List.mem_cons_self, hfirst⟩
    · obtain ⟨other, hother, hgives⟩ := ih hrest pair hpair
      exact ⟨other, List.mem_cons_of_mem _ hother, hgives⟩

end CommandLine

/-! ## A configuration that is laid over a runner twice -/

namespace Config

theorem overOptions_overOptions (config : Config) (options : Options) :
    config.overOptions (config.overOptions options) =
      { config.overOptions options with env := (config.overOptions options).env ++ config.env.pairs } := by
  unfold overOptions
  dsimp only
  congr 1
  · rw [Bool.or_assoc, Bool.or_self]
  · cases config.cwd <;> rfl

theorem apply_ok {config : Config} {plain runner : Runner} (h : config.apply plain = .ok runner) :
    config.chosenEncoding plain = .ok runner.encoding ∧ runner.primitive = plain.primitive ∧
      runner.options = config.overOptions plain.options := by
  rw [apply] at h
  cases hencoding : config.chosenEncoding plain with
  | error error =>
    rw [hencoding] at h
    cases h
  | ok encoding =>
    rw [hencoding] at h
    obtain rfl := Except.ok.inj h
    exact ⟨rfl, rfl, rfl⟩

/-- A configuration can be laid over what it was laid over before. -/
theorem exists_apply_again {config : Config} {before once : Runner} (h : config.apply before = .ok once) :
    ∃ twice, config.apply once = .ok twice := by
  have hagain : config.chosenEncoding once = .ok once.encoding := by
    obtain ⟨hencoding, -, -⟩ := apply_ok h
    unfold chosenEncoding at hencoding ⊢
    cases hname : config.encoding with
    | none => rfl
    | some name =>
      rw [hname] at hencoding
      exact hencoding
  rw [apply, hagain]
  exact ⟨_, rfl⟩

/-- **A configuration that is laid over a runner twice** comes to the children of one that is laid over it
once. -/
theorem prepare_apply_apply {config : Config} {before once : Runner} (h : config.apply before = .ok once) :
    ∃ twice, config.apply once = .ok twice ∧ ∀ (site : Site) (invocation : Invocation),
      site.prepare (twice.primitive.request twice.options invocation) =
        site.prepare (once.primitive.request once.options invocation) := by
  obtain ⟨-, -, honce⟩ := apply_ok h
  obtain ⟨twice, htwice⟩ := exists_apply_again h
  obtain ⟨-, hprimitive, hoptions⟩ := apply_ok htwice
  refine ⟨twice, htwice, fun site invocation => ?_⟩
  have hlast : config.env.pairs <:+ once.options.env := by
    rw [honce]
    exact List.suffix_append _ _
  have hagain : twice.options = { once.options with env := once.options.env ++ config.env.pairs } := by
    rw [hoptions, honce, overOptions_overOptions]
  rw [hprimitive, hagain]
  exact Site.prepare_repeated hlast site invocation (once.primitive.capture once.options)

end Config

namespace CommandLine

/-! ## The runner of a command line -/

/-- The configuration that a command line goes by. -/
def Settings.config (settings : Settings) (surroundings : Surroundings) : Except Error Config :=
  if settings.noConfig then .ok {} else Config.discover surroundings.files surroundings.directory

variable {surroundings : Surroundings} {primitive : Primitive} {settings : Settings} {runner : Runner}

theorem configured_eq :
    configured surroundings primitive settings =
      (settings.config surroundings).bind fun config => config.apply { primitive } := by
  rw [configured, Settings.config]
  split_ifs
  · rfl
  · rfl

theorem env_of_optionsOver {options laid : Options} (h : settings.optionsOver options = .ok laid) :
    laid.env = options.env ++ settings.env ∧ laid.envClear = options.envClear := by
  rw [Settings.optionsOver] at h
  cases htimeout : settings.timeoutOver options.timeout with
  | error fault =>
    rw [htimeout] at h
    cases h
  | ok timeout =>
    rw [htimeout] at h
    obtain rfl := Except.ok.inj h
    exact ⟨rfl, rfl⟩

theorem env_of_applyTo {plain : Runner} (h : settings.applyTo plain = .ok runner) :
    runner.options.env = plain.options.env ++ settings.env ∧
      runner.options.envClear = plain.options.envClear := by
  rw [Settings.applyTo] at h
  cases hencoding : (settings.encodingOver plain.encoding).mapError Fault.bare with
  | error fault =>
    rw [hencoding] at h
    cases h
  | ok encoding =>
    cases hoptions : settings.optionsOver plain.options with
    | error fault =>
      rw [hencoding, hoptions] at h
      cases h
    | ok options =>
      rw [hencoding, hoptions] at h
      obtain rfl := Except.ok.inj h
      exact env_of_optionsOver hoptions

/-- What a command line gives comes behind what its configuration gives. -/
theorem exists_config_of_setup (h : setup surroundings primitive settings = .ok runner) :
    ∃ config, settings.config surroundings = .ok config ∧
      runner.options.env = config.env.pairs ++ settings.env ∧ runner.options.envClear = false := by
  rw [setup, configured_eq] at h
  cases hconfig : settings.config surroundings with
  | error error =>
    rw [hconfig] at h
    cases h
  | ok config =>
    rw [hconfig] at h
    dsimp only [Except.bind, bind] at h
    cases happly : config.apply { primitive } with
    | error error =>
      rw [happly] at h
      cases h
    | ok plain =>
      rw [happly] at h
      obtain ⟨henv, hclear⟩ := env_of_applyTo h
      obtain ⟨-, -, hoptions⟩ := Config.apply_ok happly
      rw [hoptions] at henv hclear
      exact ⟨config, rfl, henv, hclear⟩

/-! ## What a child sees -/

/-- A name that is refused is that of a pair, and a bad one. -/
theorem exists_of_badVariable {options : Options} {name : String}
    (h : options.validate primitive = .error (.misuse (.badVariable name))) :
    ∃ value, (name, value) ∈ options.env ∧ isBadVariable name = true := by
  have hmisuse := Options.validate_eq_error_iff.mp h
  unfold Options.misuse? at hmisuse
  split_ifs at hmisuse
  · cases hmisuse
  · cases hmisuse
  · cases hmisuse
  · cases hmisuse
  · obtain ⟨pair, hfind, hname⟩ := Option.map_eq_some_iff.mp hmisuse
    obtain rfl := Misuse.badVariable.inj hname
    have hbad := List.find?_some hfind
    exact ⟨pair.2, List.mem_of_find?_eq_some hfind, hbad⟩

theorem isBadVariable_of_validate {options : Options} (h : options.validate primitive = .ok ()) :
    ∀ pair ∈ options.env, isBadVariable pair.1 = false := by
  have hnone := Options.validate_eq_ok_iff.mp h
  unfold Options.misuse? at hnone
  split_ifs at hnone
  rw [Option.map_eq_none_iff, List.find?_eq_none] at hnone
  exact fun pair hpair => Bool.eq_false_iff.mpr (hnone pair hpair)

theorem lastValue?_setup (config : Config) (given : List (String × String)) (name : String) :
    lastValue? (config.env.pairs ++ given) name = (lastValue? given name).or (config.env.get? name) := by
  rw [lastValue?_append, Variables.lastValue?_pairs]

/-- **What a child sees under a name**: the last value that the command line gives for it, or else that of
the configuration, or else what it inherits, unless it inherits nothing. A configuration that is laid over a
runner twice gives its children the same, and a name is only refused if it comes from the configuration. -/
theorem environment_of_children {arguments : List String}
    (hsetup : setup surroundings primitive settings = .ok runner)
    (hgiven : arguments.mapM pair? = some settings.env)
    (hzero : ∀ argument ∈ arguments, '\x00' ∉ argument.toList) :
    ∃ config, settings.config surroundings = .ok config ∧ runner.options.envClear = false ∧
      (∀ (clear : Bool) (σ : Type) (launcher : Launcher σ) (block : Block) (state : σ)
        (request : Request) (spilled : Streams) (site : Site) (started : Site.Started),
        let inheriting : Runner := { runner with options := { runner.options with envClear := clear } }
        (.launched request spilled ∈ (inheriting.execute launcher block state).events ∨
          .launched request spilled ∈
            (pullsOf inheriting launcher block state).flatMap (·.events)) →
        site.prepare request = .ok started →
        (∀ name, started.job.valueOf? (octets name) =
          (((lastValue? settings.env name).or (config.env.get? name)).map octets).or
            (if clear then none else Site.seen? site.environment (octets name))) ∧
        (∀ other, (∀ name, octets name ≠ other) →
          started.job.valueOf? other = if clear then none else Site.seen? site.environment other) ∧
        ((∀ pair ∈ site.environment.pairs, '=' ∉ pair.1.toList) →
          ∀ name, Site.seen? site.environment name = site.environment.get? name)) ∧
      (∀ (defaults : Config) (before once : Runner), defaults.apply before = .ok once →
        ∃ twice, defaults.apply once = .ok twice ∧ ∀ (site : Site) (invocation : Invocation),
          site.prepare (twice.primitive.request twice.options invocation) =
            site.prepare (once.primitive.request once.options invocation)) ∧
      ∀ name, runner.options.validate runner.primitive = .error (.misuse (.badVariable name)) →
        (∃ value, (name, value) ∈ config.env.pairs) ∧
          (name = "" ∨ '=' ∈ name.toList ∨ '\x00' ∈ name.toList) := by
  obtain ⟨config, hconfig, henv, hclear⟩ := exists_config_of_setup hsetup
  refine ⟨config, hconfig, hclear, ?_, fun _ _ _ h => Config.prepare_apply_apply h, ?_⟩
  · intro clear σ launcher block state request spilled site started inheriting hlaunched hprepare
    rw [pullsOf_events, or_self] at hlaunched
    obtain ⟨hvalid, invocation, rfl⟩ := Runner.request_of_launched hlaunched
    have hnames : ∀ pair ∈ inheriting.options.env, '=' ∉ pair.1.toList := by
      intro pair hpair hequals
      have hbad := isBadVariable_iff.mpr (.inr (.inl hequals))
      rw [isBadVariable_of_validate hvalid pair hpair] at hbad
      cases hbad
    have hsees : ∀ name, started.job.valueOf? name =
        (lastValue? (Site.spelled (config.env.pairs ++ settings.env)) name).or
          (if clear then none else Site.seen? site.environment name) := by
      intro name
      rw [Site.valueOf?_of_prepare hprepare, ← henv]
      exact Site.seen?_childEnvironment hnames site.environment name
    refine ⟨fun name => ?_, fun other hother => ?_, fun hinherited name => ?_⟩
    · rw [hsees, Site.lastValue?_spelled, lastValue?_setup]
    · rw [hsees, Site.lastValue?_spelled_of_ne hother, Option.none_or]
    · exact Site.seen?_eq_get? hinherited name
  · intro name hname
    obtain ⟨value, hmem, hbad⟩ := exists_of_badVariable hname
    refine ⟨⟨value, ?_⟩, isBadVariable_iff.mp hbad⟩
    rw [henv] at hmem
    rcases List.mem_append.mp hmem with hmem | hmem
    · exact hmem
    · obtain ⟨argument, hargument, hpair⟩ := exists_of_mem_mapM hgiven _ hmem
      rw [isBadVariable_of_pair? hpair (hzero argument hargument)] at hbad
      cases hbad

theorem environment_of_children_layers :
    let surroundings : Surroundings :=
      ⟨.only "/.runs.json" "\x7b\"env\": \x7b\"A\": \"1\", \"B\": \"2\"\x7d\x7d", "/"⟩
    let settings : Settings := { env := [("A", "3"), ("A", "4=5")] }
    ∃ runner started, setup surroundings .call settings = .ok runner ∧
      (Site.standard []).prepare (runner.primitive.request runner.options (.argv ["printenv"])) =
        .ok started ∧
      started.job.valueOf? (octets "A") = some (octets "4=5") ∧
      started.job.valueOf? (octets "B") = some (octets "2") ∧
      started.job.valueOf? (octets "HOME") = some (octets "/root") ∧
      started.job.valueOf? (octets "C") = none := by
  intro surroundings settings
  have hread : Config.read? "\x7b\"env\": \x7b\"A\": \"1\", \"B\": \"2\"\x7d\x7d" =
      some { env := Variables.ofPairs [("A", "1"), ("B", "2")] } := by decide +kernel
  have hconfig : Config.discover surroundings.files surroundings.directory = _ :=
    Config.discover_only hread (by cbv)
  let runner : Runner :=
    { primitive := .call, options := { env := [("A", "1"), ("B", "2"), ("A", "3"), ("A", "4=5")] } }
  have hsetup : setup surroundings .call settings = .ok runner := by
    rw [setup_eq_layer hconfig rfl]
    rfl
  have hgiven : ["A=3", "A=4=5"].mapM pair? = some settings.env := by decide +kernel
  have hzero : ∀ argument ∈ ["A=3", "A=4=5"], '\x00' ∉ argument.toList := by decide
  let launcher : Launcher Unit := fun _ state => (⟨.ok ⟨0, none, none⟩, .silent⟩, state)
  have hlaunched : .launched (runner.primitive.request runner.options (.argv ["printenv"])) .silent ∈
      (runner.execute launcher (.lines ["printenv"]) ()).events := by
    rw [Runner.execute_eq_account]
    exact List.mem_singleton_self _
  have hprepares : ((Site.standard []).prepare
      (runner.primitive.request runner.options (.argv ["printenv"]))).isOk = true := by decide +kernel
  cases hprepare : (Site.standard []).prepare
      (runner.primitive.request runner.options (.argv ["printenv"])) with
  | error error =>
    rw [hprepare] at hprepares
    cases hprepares
  | ok started =>
    obtain ⟨config, hfound, -, hsees, -⟩ := environment_of_children hsetup hgiven hzero
    obtain ⟨hnames, -⟩ :=
      hsees false Unit launcher (.lines ["printenv"]) () _ _ _ _ (.inl hlaunched) hprepare
    obtain rfl := Except.ok.inj (hfound.symm.trans hconfig)
    refine ⟨runner, started, hsetup, hprepare, (hnames "A").trans ?_, (hnames "B").trans ?_,
      (hnames "HOME").trans ?_, (hnames "C").trans ?_⟩ <;> decide +kernel

end CommandLine

end Runbook
