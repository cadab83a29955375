import Mathlib.Data.List.Basic
import Mathlib.Tactic.SplitIfs
import Runbook.Host.Launch
import Runbook.Proofs.Text.Utf8
import Runbook.Proofs.Variables

/-!
# The variables of a child

A child is given texts, and sees a name up to the first equals sign of a text and a value behind it.

* `Site.seen?` is what is seen of variables that are given in this way. Names without an equals sign are
  seen as they are (`Site.seen?_insert`): a variable that is inserted comes before all others that would be
  seen under its name.
* `Site.seen?_childEnvironment`, `Site.valueOf?_of_prepare`: a child sees the variables of its options
  over those that it inherits.
* `Site.prepare_repeated`: variables that are given once more do not change what is started.
-/

namespace Runbook.Host

open Utf8 (encodeChar)

/-! ## Octets -/

theorem octets_injective : Function.Injective octets := by
  intro a b h
  apply utf8_injective
  rw [← Octets.bytes_ofBytes (utf8 a), ← Octets.bytes_ofBytes (utf8 b)]
  exact congrArg Octets.bytes h

theorem not_mem_octets {text : String} (h : '=' ∉ text.toList) : '=' ∉ (octets text).toList := by
  intro hmem
  rw [octets, Octets.ofBytes, String.toList_ofList] at hmem
  obtain ⟨byte, hbyte, hchar⟩ := List.mem_map.mp hmem
  have heq : byte = Octets.byte '=' := by rw [← hchar, Octets.byte_ofByte]
  obtain ⟨c, hc, hin⟩ := List.mem_flatMap.mp (show byte ∈ text.toList.flatMap encodeChar from hbyte)
  have hequals : c = '=' := Utf8.eq_of_mem_encodeChar hin (by rw [heq]; rfl) (by decide)
  exact h (hequals ▸ hc)

namespace Site

/-! ## Names as they are seen -/

theorem toList_spelled (pair : String × String) :
    (pair.1 ++ "=" ++ pair.2).toList = pair.1.toList ++ '=' :: pair.2.toList := by
  rw [String.toList_append, String.toList_append, List.append_assoc]
  rfl

theorem asSeen_eq {pair : String × String} (h : '=' ∉ pair.1.toList) : asSeen pair = pair := by
  have hname : ∀ c ∈ pair.1.toList, (c != '=') = true := by
    intro c hc
    rw [bne_iff_ne]
    rintro rfl
    exact h hc
  rw [asSeen, toList_spelled, List.takeWhile_append_of_pos hname, List.dropWhile_append_of_pos hname]
  simp

theorem asSeen_isPrefix (pair : String × String) : (asSeen pair).1.toList <+: pair.1.toList := by
  rw [asSeen, String.toList_ofList, toList_spelled, List.takeWhile_append]
  split_ifs
  · exact ⟨[], by simp⟩
  · exact List.takeWhile_prefix _

/-- A name that is seen as another one comes behind that one. -/
theorem lt_of_asSeen {pair : String × String} {name : String} (h : (asSeen pair).1 = name)
    (hne : pair.1 ≠ name) : name < pair.1 := by
  obtain rfl := h
  refine lt_of_not_lt_of_ne (fun hlt => ?_) hne
  exact (asSeen_isPrefix pair).le (String.lt_iff.mp hlt)

/-- What is seen of variables under a name. -/
def seen? (vars : Variables) (name : String) : Option String :=
  ((vars.pairs.map asSeen).find? (·.1 == name)).map (·.2)

theorem find?_insertPair_asSeen {name : String} (hname : '=' ∉ name.toList) (value other : String)
    (pairs : List (String × String)) :
    ((insertPair name value pairs).map asSeen).find? (·.1 == other) =
      if name = other then some (name, value) else (pairs.map asSeen).find? (·.1 == other) := by
  have hseen : asSeen (name, value) = (name, value) := asSeen_eq hname
  induction pairs with
  | nil =>
    rw [insertPair, List.map_singleton, hseen]
    by_cases h : name = other <;> simp [h]
  | cons first rest ih =>
    rw [insertPair]
    by_cases hlt : name < first.1
    · rw [if_pos hlt, List.map_cons, hseen]
      by_cases h : name = other <;> simp [h]
    rw [if_neg hlt]
    by_cases heq : name = first.1
    · have hfirst : asSeen first = first := asSeen_eq (heq ▸ hname)
      rw [if_pos heq, List.map_cons, List.map_cons, hseen, hfirst]
      by_cases h : name = other <;> simp [h, ← heq]
    · rw [if_neg heq, List.map_cons, List.map_cons]
      by_cases h : name = other
      · subst h
        have hfirst : (asSeen first).1 ≠ name := fun hsame => hlt (lt_of_asSeen hsame (Ne.symm heq))
        rw [if_pos rfl] at ih ⊢
        rw [List.find?_cons_of_neg (by simpa using hfirst), ih]
      · rw [if_neg h] at ih ⊢
        rw [List.find?_cons, List.find?_cons, ih]

/-- A name without an equals sign is seen with the value that it was given. -/
theorem seen?_insert {name : String} (hname : '=' ∉ name.toList) (vars : Variables)
    (value other : String) :
    seen? (vars.insert name value) other = if name = other then some value else seen? vars other := by
  rw [seen?, Variables.insert, find?_insertPair_asSeen hname]
  split_ifs <;> rfl

theorem seen?_overlay {pairs : List (String × String)} (h : ∀ pair ∈ pairs, '=' ∉ pair.1.toList)
    (vars : Variables) (name : String) :
    seen? (vars.overlay pairs) name = (lastValue? pairs name).or (seen? vars name) := by
  induction pairs generalizing vars with
  | nil => rfl
  | cons first rest ih =>
    have hstep : vars.overlay (first :: rest) = (vars.insert first.1 first.2).overlay rest := rfl
    rw [hstep, ih (fun pair hpair => h pair (List.mem_cons_of_mem _ hpair)),
      seen?_insert (h first List.mem_cons_self), lastValue?_cons, Option.or_assoc]
    by_cases hname : first.1 = name
    · rw [if_pos hname, if_pos hname, Option.some_or]
    · rw [if_neg hname, if_neg hname, Option.none_or]

theorem seen?_empty (name : String) : seen? Variables.empty name = none := rfl

/-- Variables are seen as they are if no name holds an equals sign. -/
theorem seen?_eq_get? {vars : Variables} (h : ∀ pair ∈ vars.pairs, '=' ∉ pair.1.toList)
    (name : String) : seen? vars name = vars.get? name := by
  have hpairs : vars.pairs.map asSeen = vars.pairs := by
    rw [List.map_congr_left fun pair hpair => asSeen_eq (h pair hpair), List.map_id']
  rw [seen?, hpairs, Variables.get?]

/-! ## What a child is given -/

/-- The pairs of options as a child is given them. -/
def spelled (pairs : List (String × String)) : List (String × String) :=
  pairs.map fun pair => (octets pair.1, octets pair.2)

theorem not_mem_spelled {pairs : List (String × String)} (h : ∀ pair ∈ pairs, '=' ∉ pair.1.toList) :
    ∀ pair ∈ spelled pairs, '=' ∉ pair.1.toList := by
  intro pair hpair
  obtain ⟨given, hgiven, rfl⟩ := List.mem_map.mp hpair
  exact not_mem_octets (h given hgiven)

theorem lastValue?_spelled (pairs : List (String × String)) (name : String) :
    lastValue? (spelled pairs) (octets name) = (lastValue? pairs name).map octets :=
  lastValue?_map octets_injective

theorem lastValue?_spelled_of_ne {other : String} (h : ∀ name, octets name ≠ other)
    (pairs : List (String × String)) : lastValue? (spelled pairs) other = none := by
  cases hlast : lastValue? (spelled pairs) other with
  | none => rfl
  | some value =>
    obtain ⟨given, -, hgiven⟩ := List.mem_map.mp (mem_of_lastValue? hlast)
    exact absurd (congrArg Prod.fst hgiven) (h given.1)

theorem childEnvironment_eq (inherited : Variables) (options : Options) :
    childEnvironment inherited options =
      (if options.envClear then Variables.empty else inherited).overlay (spelled options.env) := rfl

theorem seen?_childEnvironment {options : Options} (h : ∀ pair ∈ options.env, '=' ∉ pair.1.toList)
    (inherited : Variables) (name : String) :
    seen? (childEnvironment inherited options) name =
      (lastValue? (spelled options.env) name).or
        (if options.envClear then none else seen? inherited name) := by
  rw [childEnvironment_eq, seen?_overlay (not_mem_spelled h)]
  split_ifs
  · rw [seen?_empty]
  · rfl

/-- Variables that were given last change nothing when they are given once more. -/
theorem childEnvironment_repeated {options : Options} {vars : Variables} (h : vars.pairs <:+ options.env)
    (inherited : Variables) :
    childEnvironment inherited { options with env := options.env ++ vars.pairs } =
      childEnvironment inherited options := by
  obtain ⟨before, henv⟩ := h
  have hspelled : spelled (options.env ++ vars.pairs) = spelled options.env ++ spelled vars.pairs :=
    List.map_append
  rw [childEnvironment_eq, childEnvironment_eq]
  dsimp only
  rw [hspelled, Variables.overlay_append]
  refine Variables.overlay_of_subset fun pair hpair => ?_
  obtain ⟨given, hgiven, rfl⟩ := List.mem_map.mp hpair
  have hvalue : lastValue? (spelled options.env) (octets given.1) = some (octets given.2) := by
    rw [lastValue?_spelled, ← henv, lastValue?_append, Variables.lastValue?_pairs,
      Variables.get?_eq_some_iff.mpr hgiven]
    rfl
  rw [← Variables.get?_eq_some_iff, Variables.get?_overlay]
  change (lastValue? _ _).or _ = _
  rw [hvalue]
  rfl

/-! ## Starting a child -/

theorem exists_of_firstOf {α : Type} {attempt : String → Except Refusal α} {isDenied : Bool}
    {refusal : Refusal} {paths : List String} {found : α}
    (h : firstOf attempt isDenied refusal paths = .ok found) : ∃ path, attempt path = .ok found := by
  fun_induction firstOf attempt isDenied refusal paths with
  | case1 => cases h
  | case2 isDenied refusal path rest found' hfound =>
    exact ⟨path, hfound.trans h⟩
  | case3 isDenied refusal path rest hfound ih => exact ih h
  | case4 isDenied refusal path rest hfound ih => exact ih h
  | case5 isDenied refusal path rest hfound ih => exact ih h
  | case6 => cases h

theorem environment_of_find {files : Files} {directory : Location} {path program : String}
    {job found : Job} (h : Starting.find files directory path job = .ok (program, found)) :
    found.environment = job.environment := by
  unfold Starting.find at h
  split_ifs at h
  · cases h
  · cases hfollow : Starting.follow files directory (Starting.scriptLimit + 1) path job.arguments with
    | error refusal =>
      rw [hfollow] at h
      cases h
    | ok followed =>
      rw [hfollow] at h
      cases h
      rfl

theorem environment_of_findProgram {files : Files} {directory : Location} {path name program : String}
    {readsScripts : Bool} {job found : Job}
    (h : findProgram files directory path readsScripts name job = .ok (program, found)) :
    found.environment = job.environment := by
  unfold findProgram at h
  extract_lets attempt at h
  have hattempt : ∀ path, attempt path = .ok (program, found) → found.environment = job.environment := by
    intro path hpath
    unfold attempt at hpath
    split at hpath
    · split_ifs at hpath
      -- a shell that reads the file is given the variables of the job, too
      have hshell := environment_of_find hpath
      exact hshell
    · exact environment_of_find hpath
  split_ifs at h
  · exact hattempt name h
  · obtain ⟨path, hpath⟩ := exists_of_firstOf h
    exact hattempt path hpath

theorem ok_of_mapError {α ε δ : Type} {attempt : Except ε α} {tell : ε → δ} {a : α}
    (h : attempt.mapError tell = .ok a) : attempt = .ok a := by
  cases attempt with
  | error error => cases h
  | ok b => exact congrArg _ (Except.ok.inj h)

/-- A child is given the variables of its options over those that it inherits. -/
theorem environment_of_prepare {site : Site} {request : Request} {started : Started}
    (h : site.prepare request = .ok started) :
    started.job.environment =
      (childEnvironment site.environment request.options).pairs.map asSeen := by
  unfold prepare at h
  cases hcommand : command request with
  | error error =>
    rw [hcommand] at h
    cases h
  | ok commanded =>
    rw [hcommand] at h
    dsimp only [bind, Except.bind] at h
    by_cases hzero : hasZero request.options commanded.1 commanded.2 = true
    · rw [if_pos hzero] at h
      cases h
    rw [if_neg hzero] at h
    have hfound := ok_of_mapError h
    cases hdirectory : site.childDirectory request.options with
    | error refusal =>
      rw [hdirectory] at hfound
      cases hfound
    | ok directory =>
      rw [hdirectory] at hfound
      dsimp only at hfound
      split at hfound
      · cases hfound
      · rename_i program hprogram
        cases hfound
        exact environment_of_findProgram hprogram

theorem valueOf?_of_prepare {site : Site} {request : Request} {started : Started}
    (h : site.prepare request = .ok started) (name : String) :
    started.job.valueOf? name = seen? (childEnvironment site.environment request.options) name := by
  rw [Job.valueOf?, environment_of_prepare h, seen?]

theorem any_or_of_suffix {α : Type} {given last : List α} (h : last <:+ given) (p : α → Bool) :
    (given.any p || last.any p) = given.any p := by
  obtain ⟨before, rfl⟩ := h
  rw [List.any_append, Bool.or_assoc, Bool.or_self]

/-- The same child is started when variables that were given last are given once more. -/
theorem prepare_repeated {options : Options} {vars : Variables} (h : vars.pairs <:+ options.env)
    (site : Site) (invocation : Invocation) (capture : Capture) :
    site.prepare ⟨invocation, { options with env := options.env ++ vars.pairs }, capture⟩ =
      site.prepare ⟨invocation, options, capture⟩ := by
  have hcommand : command ⟨invocation, { options with env := options.env ++ vars.pairs }, capture⟩ =
      command ⟨invocation, options, capture⟩ := by
    cases invocation with
    | argv words => cases words <;> rfl
    | shell line => rfl
  have hzero : ∀ program arguments, hasZero { options with env := options.env ++ vars.pairs } program
      arguments = hasZero options program arguments := by
    intro program arguments
    unfold hasZero
    simp only [List.any_append, List.any_flatMap, any_or_of_suffix h]
  have hpath : changesPath { options with env := options.env ++ vars.pairs } = changesPath options := by
    unfold changesPath
    rw [List.any_append, any_or_of_suffix h]
  unfold prepare
  dsimp only
  rw [hcommand, hpath]
  simp only [hzero, childEnvironment_repeated h]
  rfl

end Site

end Runbook.Host
