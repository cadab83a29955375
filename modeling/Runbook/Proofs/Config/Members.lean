import Mathlib.Data.List.Count
import Mathlib.Data.Set.List
import Mathlib.Logic.Relation
import Runbook.Proofs.Config.Document
import Runbook.Proofs.Config.Lookup
import Runbook.Proofs.Json.Compact

/-!
# The members that count

A configuration is what the known members of an object say.

* `Orderly` objects have each known member at most once, with a value of its type. `ofMembers` looks the
  values up by their names; `setAll?_eq_withValues` and `ofJson?_object`: this is what reading member by
  member comes to, in any order.
* `Edit` is a change of the order, of members with other names, or of the order of variables.
  `Edit.alike`: it changes nothing, and leaves objects in order.
* `only_known_members_count` is about the texts of such objects, and about the texts that are refused: those
  of objects with a known member twice or with a name that is no text, and those that spell no value.
-/

namespace Runbook

namespace Config

/-! ## What the members say -/

/-- A value that a known member may have. -/
inductive OfType : String → Json → Prop
  | absent {name : String} (h : name ∈ ["echo", "on_exception", "encoding", "cwd"]) : OfType name .null
  | switch {name : String} (h : name ∈ ["echo", "on_exception", "shell"]) (enabled : Bool) :
    OfType name (.bool enabled)
  | text {name : String} (h : name ∈ ["echo", "on_exception", "encoding", "cwd"]) (text : String) :
    OfType name (Json.ofText text)
  | texts {members : List (Option String × Json)}
    (htexts : ∀ member ∈ members, ∃ name value, member = (some name, Json.ofText value))
    (hdistinct : (members.map (·.1)).Nodup) : OfType "env" (.object members)

/-- Each known member is there at most once, and has a value of its type. -/
structure Orderly (members : List (Option String × Json)) : Prop where
  once : ∀ name ∈ names, (members.map (·.1)).count (some name) ≤ 1
  typed : ∀ name ∈ names, ∀ value, (some name, value) ∈ members → OfType name value

/-- The value of a member. -/
def member? (members : List (Option String × Json)) (name : String) : Option Json :=
  (members.find? (·.1 == some name)).map (·.2)

/-- A setting, if there is a value for it. -/
def setting {α : Type} (read? : Json → Option α) (left : α) : Option Json → α
  | none => left
  | some json => (read? json).getD left

/-- A configuration with the settings for which there are values. -/
def withValues (config : Config) (value? : String → Option Json) : Config where
  echo := setting (optional? toggle?) config.echo (value? "echo")
  onFailure := setting (optional? toggle?) config.onFailure (value? "on_exception")
  encoding := setting (optional? text?) config.encoding (value? "encoding")
  shell := setting switch? config.shell (value? "shell")
  cwd := setting (optional? text?) config.cwd (value? "cwd")
  env := setting variables? config.env (value? "env")

/-- The configuration that members say. -/
def ofMembers (members : List (Option String × Json)) : Config := withValues {} (member? members)

section

variable {config : Config} {value? other? : String → Option Json}

theorem withValues_congr (h : ∀ name ∈ names, value? name = other? name) :
    config.withValues value? = config.withValues other? := by
  unfold withValues
  rw [h "echo" (by decide), h "on_exception" (by decide), h "encoding" (by decide), h "shell" (by decide),
    h "cwd" (by decide), h "env" (by decide)]

theorem withValues_none (config : Config) : (config.withValues fun _ => none) = config := rfl

theorem setting_or {α : Type} {read? : Json → Option α} {left : α} {value other : Option Json}
    (h : value = none ∨ other = none) :
    setting read? (setting read? left value) other = setting read? left (value.or other) := by
  rcases h with rfl | rfl
  · rfl
  · rw [Option.or_none]
    rfl

theorem withValues_withValues (h : ∀ name ∈ names, value? name = none ∨ other? name = none) :
    (config.withValues value?).withValues other? =
      config.withValues fun name => (value? name).or (other? name) := by
  unfold withValues
  dsimp only
  rw [setting_or (h "echo" (by decide)), setting_or (h "on_exception" (by decide)),
    setting_or (h "encoding" (by decide)), setting_or (h "shell" (by decide)),
    setting_or (h "cwd" (by decide)), setting_or (h "env" (by decide))]

end

theorem member?_cons (name : Option String) (value : Json) (members : List (Option String × Json))
    (other : String) :
    member? ((name, value) :: members) other =
      (if name = some other then some value else none).or (member? members other) := by
  unfold member?
  by_cases h : name = some other
  · rw [List.find?_cons_of_pos (by simpa using h), if_pos h]
    rfl
  · rw [List.find?_cons_of_neg (by simpa using h), if_neg h, Option.none_or]

theorem member?_eq_none_iff {members : List (Option String × Json)} {name : String} :
    member? members name = none ↔ some name ∉ members.map (·.1) := by
  rw [member?, Option.map_eq_none_iff, List.find?_eq_none]
  constructor
  · intro h hmem
    obtain ⟨member, hmember, hname⟩ := List.mem_map.mp hmem
    exact h member hmember (beq_iff_eq.mpr hname)
  · intro h member hmember hname
    exact h (List.mem_map.mpr ⟨member, hmember, beq_iff_eq.mp hname⟩)

/-- A member that is there once has one value. -/
theorem member?_eq_some_iff {members : List (Option String × Json)} {name : String} {value : Json}
    (honce : (members.map (·.1)).count (some name) ≤ 1) :
    member? members name = some value ↔ (some name, value) ∈ members := by
  induction members with
  | nil => simp [member?]
  | cons member members ih =>
    obtain ⟨first, json⟩ := member
    rw [List.map_cons, List.count_cons] at honce
    rw [member?_cons]
    by_cases h : first = some name
    · subst h
      have hnone : some name ∉ members.map (·.1) := by
        rw [← List.count_eq_zero]
        simpa using honce
      have hother : (some name, value) ∉ members := fun hmem => hnone (List.mem_map.mpr ⟨_, hmem, rfl⟩)
      simp [hother, eq_comm]
    · have hne : (some name, value) ≠ (first, json) := fun heq => h (Prod.mk.inj heq).1.symm
      rw [if_neg h, Option.none_or, ih (by omega), List.mem_cons]
      simp [hne]

/-! ## Values of their types -/

section

variable {name : String} {json : Json}

theorem OfType.toggle (h : OfType name json) (hname : name = "echo" ∨ name = "on_exception") :
    ∃ toggle, optional? toggle? json = some toggle := by
  cases h with
  | absent _ => exact ⟨none, rfl⟩
  | switch _ enabled => exact ⟨some (.switch enabled), rfl⟩
  | text _ text => exact ⟨some (.label text), rfl⟩
  | texts _ _ => exact absurd hname (by decide)

theorem OfType.label (h : OfType name json) (hname : name = "encoding" ∨ name = "cwd") :
    ∃ text, optional? text? json = some text := by
  cases h with
  | absent _ => exact ⟨none, rfl⟩
  | switch h _ =>
    rcases hname with rfl | rfl
    · exact absurd h (by decide)
    · exact absurd h (by decide)
  | text _ text => exact ⟨some text, rfl⟩
  | texts _ _ => exact absurd hname (by decide)

theorem OfType.enabled (h : OfType name json) (hname : name = "shell") :
    ∃ enabled, switch? json = some enabled := by
  cases h with
  | absent h => exact absurd (hname ▸ h) (by decide)
  | switch _ enabled => exact ⟨enabled, rfl⟩
  | text h _ => exact absurd (hname ▸ h) (by decide)
  | texts _ _ => exact absurd hname (by decide)

theorem OfType.members (h : OfType name json) (hname : name = "env") :
    ∃ pairs : List (String × String),
      json = .object (pairs.map fun pair => (some pair.1, Json.ofText pair.2)) ∧
        (pairs.map (·.1)).Nodup := by
  cases h with
  | absent h => exact absurd (hname ▸ h) (by decide)
  | switch h _ => exact absurd (hname ▸ h) (by decide)
  | text h _ => exact absurd (hname ▸ h) (by decide)
  | @texts members htexts hdistinct =>
    have hrange : members ∈ Set.range (List.map fun pair : String × String =>
        (some pair.1, Json.ofText pair.2)) := by
      rw [Set.range_list_map]
      intro member hmember
      obtain ⟨name, value, rfl⟩ := htexts member hmember
      exact ⟨(name, value), rfl⟩
    obtain ⟨pairs, rfl⟩ := hrange
    have hnames : ((pairs.map (·.1)).map some).Nodup := by
      rw [List.map_map] at hdistinct ⊢
      exact hdistinct
    exact ⟨pairs, rfl, hnames.of_map _⟩

/-- The variables in an object are those that it has as members. -/
theorem exists_variables? {members : List (Option String × Json)} (h : OfType "env" (.object members)) :
    ∃ vars, variables? (.object members) = some vars ∧
      ∀ name value, vars.get? name = some value ↔ (some name, Json.ofText value) ∈ members := by
  obtain ⟨pairs, hpairs, hnames⟩ := h.members rfl
  obtain rfl := Json.object.inj hpairs
  refine ⟨Variables.ofPairs pairs, variables?_texts pairs, fun name value => ?_⟩
  rw [Variables.get?_ofPairs, lastValue?_eq_some_iff hnames]
  simp [Json.ofText]

theorem OfType.env (h : OfType name json) (hname : name = "env") :
    ∃ vars, variables? json = some vars := by
  obtain ⟨pairs, rfl, -⟩ := h.members hname
  exact ⟨_, variables?_texts pairs⟩

/-- To set a member is to have a value for it. -/
theorem set?_eq_withValues (config : Config) (h : name ∈ names → OfType name json) :
    config.set? name json =
      some (config.withValues fun other => if name = other then some json else none) := by
  rw [set?]
  split_ifs with hecho honException hencoding hshell hcwd henv
  · subst hecho
    obtain ⟨toggle, htoggle⟩ := (h (by decide)).toggle (.inl rfl)
    simp [withValues, setting, htoggle]
  · subst honException
    obtain ⟨toggle, htoggle⟩ := (h (by decide)).toggle (.inr rfl)
    simp [withValues, setting, htoggle]
  · subst hencoding
    obtain ⟨text, htext⟩ := (h (by decide)).label (.inl rfl)
    simp [withValues, setting, htext]
  · subst hshell
    obtain ⟨enabled, henabled⟩ := (h (by decide)).enabled rfl
    simp [withValues, setting, henabled]
  · subst hcwd
    obtain ⟨text, htext⟩ := (h (by decide)).label (.inr rfl)
    simp [withValues, setting, htext]
  · subst henv
    obtain ⟨vars, hvars⟩ := (h (by decide)).env rfl
    simp [withValues, setting, hvars]
  · have hother : name ∉ names := by simp [names, *]
    rw [← withValues_none config]
    refine congrArg some (withValues_congr fun known hknown => ?_)
    rw [if_neg]
    rintro rfl
    exact hother hknown

end

/-! ## Reading an object -/

/-- All names are texts. -/
def Named (members : List (Option String × Json)) : Prop := none ∉ members.map (·.1)

instance (members : List (Option String × Json)) : Decidable (Named members) :=
  inferInstanceAs (Decidable (none ∉ members.map (·.1)))

/-- Members with texts for names. -/
def textNamed (named : List (String × Json)) : List (Option String × Json) :=
  named.map fun member => (some member.1, member.2)

theorem textNamed_cons (name : String) (json : Json) (named : List (String × Json)) :
    textNamed ((name, json) :: named) = (some name, json) :: textNamed named := rfl

theorem named?_textNamed (named : List (String × Json)) : named? (textNamed named) = some named :=
  named?_ofMembers named

theorem exists_textNamed {members : List (Option String × Json)} (h : Named members) :
    ∃ named, members = textNamed named := by
  have hrange : members ∈ Set.range (List.map fun member : String × Json =>
      (some member.1, member.2)) := by
    rw [Set.range_list_map]
    intro member hmember
    obtain ⟨name, value⟩ := member
    cases name with
    | none => exact absurd (List.mem_map.mpr ⟨_, hmember, rfl⟩) h
    | some name => exact ⟨(name, value), rfl⟩
  obtain ⟨named, rfl⟩ := hrange
  exact ⟨named, rfl⟩

theorem named?_eq_none {members : List (Option String × Json)} (h : ¬Named members) :
    named? members = none := by
  induction members with
  | nil => exact absurd List.not_mem_nil h
  | cons member members ih =>
    obtain ⟨name, value⟩ := member
    rw [named?, List.mapM_cons]
    cases name with
    | none => rfl
    | some name =>
      have hne : none ≠ some name := (Option.some_ne_none name).symm
      have hrest : ¬Named members := fun hrest => h (List.not_mem_cons_of_ne_of_not_mem hne hrest)
      change (named? members).bind _ = none
      rw [ih hrest]
      rfl

theorem Orderly.tail {member : Option String × Json} {members : List (Option String × Json)}
    (h : Orderly (member :: members)) : Orderly members := by
  refine ⟨fun name hname => ?_, fun name hname value hmem => h.typed name hname value (.tail _ hmem)⟩
  have honce := h.once name hname
  rw [List.map_cons, List.count_cons] at honce
  omega

/-- A known member that comes first does not come again. -/
theorem Orderly.member?_tail {name : String} {value : Json} {members : List (Option String × Json)}
    (h : Orderly ((some name, value) :: members)) (hname : name ∈ names) : member? members name = none := by
  have honce := h.once name hname
  rw [List.map_cons, List.count_cons_self] at honce
  rw [member?_eq_none_iff, ← List.count_eq_zero]
  omega

/-- To read members is to have values for them. -/
theorem setAll?_eq_withValues (config : Config) {named : List (String × Json)}
    (h : Orderly (textNamed named)) :
    config.setAll? named = some (config.withValues (member? (textNamed named))) := by
  induction named generalizing config with
  | nil => rfl
  | cons member named ih =>
    obtain ⟨name, json⟩ := member
    rw [textNamed_cons] at h
    have htyped : name ∈ names → OfType name json := fun hname =>
      h.typed name hname json List.mem_cons_self
    have hapart : ∀ other ∈ names, (if name = other then some json else none) = none ∨
        member? (textNamed named) other = none := by
      intro other hother
      by_cases heq : name = other
      · subst heq
        exact .inr (h.member?_tail hother)
      · exact .inl (if_neg heq)
    rw [setAll?, set?_eq_withValues config htyped]
    change setAll? _ named = _
    rw [ih _ h.tail, withValues_withValues hapart]
    refine congrArg some (withValues_congr fun other _ => ?_)
    rw [textNamed_cons, member?_cons]
    by_cases heq : name = other <;> simp [heq]

theorem count_textNamed (named : List (String × Json)) (name : String) :
    ((textNamed named).map (·.1)).count (some name) = (named.map (·.1)).count name := by
  rw [← List.count_map_of_injective (named.map (·.1)) some (Option.some_injective String) name, textNamed,
    List.map_map, List.map_map]
  rfl

theorem distinct_iff {named : List (String × Json)} :
    distinct named = true ↔ ∀ name ∈ names, ((textNamed named).map (·.1)).count (some name) ≤ 1 := by
  simp only [distinct, List.all_eq_true, decide_eq_true_eq, count_textNamed]

/-- **What an object says depends on its known members only.** -/
theorem ofJson?_object {members : List (Option String × Json)} (h : Orderly members)
    (hnamed : Named members) : ofJson? (.object members) = some (ofMembers members) := by
  obtain ⟨named, rfl⟩ := exists_textNamed hnamed
  rw [ofJson?, named?_textNamed]
  change (if distinct named = true then setAll? {} named else none) = _
  rw [if_pos (distinct_iff.mpr h.once), setAll?_eq_withValues _ h]
  rfl

theorem ofJson?_of_unnamed {members : List (Option String × Json)} (h : ¬Named members) :
    ofJson? (.object members) = none := by
  rw [ofJson?, named?_eq_none h]
  rfl

/-- An object with a known member twice says nothing. -/
theorem ofJson?_of_repeated {members : List (Option String × Json)} {name : String} (hname : name ∈ names)
    (h : 2 ≤ (members.map (·.1)).count (some name)) : ofJson? (.object members) = none := by
  by_cases hnamed : Named members
  · obtain ⟨named, rfl⟩ := exists_textNamed hnamed
    rw [ofJson?, named?_textNamed]
    change (if distinct named = true then setAll? {} named else none) = _
    rw [if_neg]
    intro hdistinct
    exact absurd (distinct_iff.mp hdistinct name hname) (by omega)
  · exact ofJson?_of_unnamed hnamed

/-! ## Changes that do not count -/

/-- A change of members that leaves the known ones as they are, up to the order of variables. -/
inductive Edit : List (Option String × Json) → List (Option String × Json) → Prop
  | reorder {members others : List (Option String × Json)} (h : members.Perm others) : Edit members others
  | insert {before after : List (Option String × Json)} {name : Option String} {value : Json}
    (h : ∀ known ∈ names, name ≠ some known) : Edit (before ++ after) (before ++ (name, value) :: after)
  | remove {before after : List (Option String × Json)} {name : Option String} {value : Json}
    (h : ∀ known ∈ names, name ≠ some known) : Edit (before ++ (name, value) :: after) (before ++ after)
  | reorderVariables {before after pairs others : List (Option String × Json)} (h : pairs.Perm others) :
    Edit (before ++ (some "env", .object pairs) :: after) (before ++ (some "env", .object others) :: after)

/-- The objects are in order, and say the same. -/
def Alike (members others : List (Option String × Json)) : Prop :=
  Orderly members → Orderly others ∧ ofMembers others = ofMembers members

section

variable {members others : List (Option String × Json)}

theorem Alike.trans {more : List (Option String × Json)} (h : Alike members others)
    (hmore : Alike others more) : Alike members more := by
  intro horderly
  obtain ⟨hothers, hsame⟩ := h horderly
  obtain ⟨hmoreOrderly, hmoreSame⟩ := hmore hothers
  exact ⟨hmoreOrderly, hmoreSame.trans hsame⟩

theorem alike_of_perm (h : members.Perm others) : Alike members others := by
  intro horderly
  have honce : ∀ name ∈ names, (others.map (·.1)).count (some name) ≤ 1 := by
    intro name hname
    rw [← (h.map (·.1)).count_eq]
    exact horderly.once name hname
  refine ⟨⟨honce, fun name hname value hmem => horderly.typed name hname value (h.mem_iff.mpr hmem)⟩,
    withValues_congr fun name hname => ?_⟩
  refine Option.ext fun value => ?_
  rw [member?_eq_some_iff (honce name hname), member?_eq_some_iff (horderly.once name hname), h.mem_iff]

theorem alike_cons_of_other {name : Option String} {value : Json}
    (h : ∀ known ∈ names, name ≠ some known) :
    Alike members ((name, value) :: members) ∧ Alike ((name, value) :: members) members := by
  have hsame : ofMembers ((name, value) :: members) = ofMembers members := by
    refine withValues_congr fun known hknown => ?_
    rw [member?_cons, if_neg (h known hknown), Option.none_or]
  refine ⟨fun horderly => ⟨⟨fun known hknown => ?_, fun known hknown other hmem => ?_⟩, hsame⟩,
    fun horderly => ⟨horderly.tail, hsame.symm⟩⟩
  · rw [List.map_cons, List.count_cons_of_ne (h known hknown)]
    exact horderly.once known hknown
  · rcases List.mem_cons.mp hmem with heq | hmem
    · exact absurd (Prod.mk.inj heq).1.symm (h known hknown)
    · exact horderly.typed known hknown other hmem

theorem OfType.perm {pairs others : List (Option String × Json)} (h : OfType "env" (.object pairs))
    (hperm : pairs.Perm others) :
    OfType "env" (.object others) ∧ variables? (.object others) = variables? (.object pairs) := by
  have hothers : OfType "env" (.object others) := by
    cases h with
    | texts htexts hdistinct =>
      exact .texts (fun member hmember => htexts member (hperm.mem_iff.mpr hmember))
        ((hperm.map (·.1)).nodup_iff.mp hdistinct)
  obtain ⟨vars, hvars, hget⟩ := exists_variables? h
  obtain ⟨otherVars, hotherVars, hotherGet⟩ := exists_variables? hothers
  refine ⟨hothers, ?_⟩
  rw [hvars, hotherVars]
  refine congrArg some (Variables.eq_of_get? fun name => Option.ext fun value => ?_)
  rw [hget, hotherGet, hperm.mem_iff]

theorem alike_of_variables {pairs otherPairs : List (Option String × Json)} (h : pairs.Perm otherPairs) :
    Alike ((some "env", .object pairs) :: members) ((some "env", .object otherPairs) :: members) := by
  intro horderly
  have htyped := horderly.typed "env" (by decide) _ List.mem_cons_self
  obtain ⟨hothers, hvariables⟩ := htyped.perm h
  refine ⟨⟨horderly.once, fun name hname value hmem => ?_⟩, ?_⟩
  · rcases List.mem_cons.mp hmem with heq | hmem
    · obtain ⟨hsame, rfl⟩ := Prod.mk.inj heq
      rw [Option.some.inj hsame]
      exact hothers
    · exact horderly.typed name hname value (.tail _ hmem)
  · unfold ofMembers withValues
    simp [member?_cons, setting, hvariables]

/-- **Changes that do not count.** -/
theorem Edit.alike (h : Edit members others) : Alike members others := by
  cases h with
  | reorder hperm => exact alike_of_perm hperm
  | insert hname =>
    exact (alike_cons_of_other hname).1.trans (alike_of_perm List.perm_middle.symm)
  | remove hname =>
    exact (alike_of_perm List.perm_middle).trans (alike_cons_of_other hname).2
  | reorderVariables hperm =>
    exact ((alike_of_perm List.perm_middle).trans (alike_of_variables hperm)).trans
      (alike_of_perm List.perm_middle.symm)

theorem alike_of_edits (h : Relation.ReflTransGen Edit members others) : Alike members others := by
  induction h with
  | refl => exact fun horderly => ⟨horderly, rfl⟩
  | tail _ hedit ih => exact ih.trans hedit.alike

end

/-! ## Texts -/

theorem load_object {files : FileView} {path text : String} {members : List (Option String × Json)}
    (hfile : files.readText path = .ok text) (htext : Json.IsText (.object members) text.toList) :
    load files path =
      match ofJson? (.object members) with
      | some config => .ok { config with cwd := config.cwd.map (besides path) }
      | none => .error (.badConfig path) := by
  have hread : read? text = ofJson? (.object members) := by
    rw [read?, Json.read?_isText htext]
    rfl
  rw [load, hfile]
  dsimp only
  rw [hread]
  cases ofJson? (.object members) <;> rfl

theorem load_orderly {files : FileView} {path text : String} {members : List (Option String × Json)}
    (hfile : files.readText path = .ok text) (htext : Json.IsText (.object members) text.toList)
    (h : Orderly members) (hnamed : Named members) :
    load files path =
      .ok { ofMembers members with cwd := (ofMembers members).cwd.map (besides path) } := by
  rw [load_object hfile htext, ofJson?_object h hnamed]

theorem load_of_ungrammatical {files : FileView} {path text : String}
    (hfile : files.readText path = .ok text) (h : ∀ value, ¬Json.IsText value text.toList) :
    load files path = .error (.badConfig path) := by
  have hread : Json.read? text.toList = none := by
    rw [Option.eq_none_iff_forall_ne_some]
    exact fun value hvalue => h value (Json.read?_eq_some_iff.mp hvalue)
  refine load_of_unsound hfile ?_
  rw [read?, hread]
  rfl

/-- **Only the known members count.** Two texts of objects that are in order load as the same configuration
if the objects are the same up to edits, that is, up to the order of members and of variables and up to
members with other names; the blanks of the texts and the spelling of their strings are left open by the
grammar. A text of an object in which a known member comes twice is refused, and so are one of an object
with a name that is no text, and all texts that the grammar does not know. -/
theorem only_known_members_count :
    (∀ {members others : List (Option String × Json)} {text other : String},
      Json.IsText (.object members) text.toList → Json.IsText (.object others) other.toList →
      Orderly members → Named members → Named others → Relation.ReflTransGen Edit members others →
      ∀ {files otherFiles : FileView} {path : String},
        files.readText path = .ok text → otherFiles.readText path = .ok other →
        load files path =
            .ok { ofMembers members with cwd := (ofMembers members).cwd.map (besides path) } ∧
          load otherFiles path = load files path) ∧
      (∀ {members : List (Option String × Json)} {text : String},
        Json.IsText (.object members) text.toList →
        (∃ name ∈ names, 2 ≤ (members.map (·.1)).count (some name)) ∨ ¬Named members →
        ∀ {files : FileView} {path : String}, files.readText path = .ok text →
          load files path = .error (.badConfig path)) ∧
      ∀ {text : String}, (∀ value, ¬Json.IsText value text.toList) →
        ∀ {files : FileView} {path : String}, files.readText path = .ok text →
          load files path = .error (.badConfig path) := by
  refine ⟨fun htext hother horderly hnamed hothersNamed hedits _ _ path hfile hotherFile => ?_,
    fun htext hrefused _ path hfile => ?_, fun h _ path hfile => load_of_ungrammatical hfile h⟩
  · obtain ⟨hothersOrderly, hsame⟩ := alike_of_edits hedits horderly
    have hload := load_orderly hfile htext horderly hnamed
    refine ⟨hload, ?_⟩
    rw [load_orderly hotherFile hother hothersOrderly hothersNamed, hsame, hload]
  · rw [load_object hfile htext]
    rcases hrefused with ⟨name, hname, htwice⟩ | hunnamed
    · rw [ofJson?_of_repeated hname htwice]
    · rw [ofJson?_of_unnamed hunnamed]

/-- The same configuration in another order, with a member more. -/
theorem only_known_members_count_shell :
    load (.only "a/f" "\x7b\"shell\":true,\"x\":[[],null],\"cwd\":\"x\"\x7d") "a/f" =
        load (.only "a/f" "\x7b\"cwd\":\"x\",\"shell\":true\x7d") "a/f" ∧
      load (.only "a/f" "\x7b\"cwd\":\"x\",\"shell\":true\x7d") "a/f" =
        .ok { shell := true, cwd := some "a/x" } := by
  have hsound : Json.Sound (.object [(some "cwd", .ofText "x"), (some "shell", .bool true)]) := by
    refine .object fun member hmember => ?_
    simp only [List.mem_cons, List.not_mem_nil, or_false] at hmember
    rcases hmember with rfl | rfl
    · exact .string _
    · exact .bool true
  have hotherSound : Json.Sound (.object [(some "shell", .bool true),
      (some "x", .array [.array [], .null]), (some "cwd", .ofText "x")]) := by
    refine .object fun member hmember => ?_
    simp only [List.mem_cons, List.not_mem_nil, or_false] at hmember
    rcases hmember with rfl | rfl | rfl
    · exact .bool true
    · refine .array fun item hitem => ?_
      simp only [List.mem_cons, List.not_mem_nil, or_false] at hitem
      rcases hitem with rfl | rfl
      · exact .array fun _ hnone => absurd hnone List.not_mem_nil
      · exact .null
    · exact .string _
  have horderly : Orderly [(some "cwd", .ofText "x"), (some "shell", .bool true)] := by
    refine ⟨by decide, fun name _ value hmem => ?_⟩
    simp only [List.mem_cons, List.not_mem_nil, or_false, Prod.mk.injEq, Option.some.injEq] at hmem
    rcases hmem with ⟨rfl, rfl⟩ | ⟨rfl, rfl⟩
    · exact .text (by decide) "x"
    · exact .switch (by decide) true
  have hreorder : Edit [(some "cwd", .ofText "x"), (some "shell", .bool true)]
      [(some "shell", .bool true), (some "cwd", .ofText "x")] := .reorder (.swap _ _ _)
  have hinsert : Edit [(some "shell", .bool true), (some "cwd", .ofText "x")]
      [(some "shell", .bool true), (some "x", .array [.array [], .null]), (some "cwd", .ofText "x")] :=
    @Edit.insert [_] [_] (some "x") _ (by decide)
  have htext : Json.IsText _ "\x7b\"cwd\":\"x\",\"shell\":true\x7d".toList := Json.isText_compact hsound
  have hother : Json.IsText _ "\x7b\"shell\":true,\"x\":[[],null],\"cwd\":\"x\"\x7d".toList :=
    Json.isText_compact hotherSound
  obtain ⟨hcount, -⟩ := only_known_members_count
  obtain ⟨hload, hsame⟩ := hcount htext hother horderly (by decide) (by decide)
    (.tail (.single hreorder) hinsert) (FileView.readText_only _ _) (FileView.readText_only _ _)
  refine ⟨hsame, hload.trans (congrArg Except.ok ?_)⟩
  decide +kernel

/-- A member with another name, which no text is. -/
theorem half_a_pair_is_refused :
    Json.IsText (.object []) "\x7b\x7d".toList ∧
      Json.IsText (.object [(none, .number "1")]) "\x7b\"\\ud800\":1\x7d".toList ∧
      Orderly [] ∧ Edit [] [(none, .number "1")] ∧ Orderly [(none, .number "1")] ∧
      load (.only "f" "\x7b\x7d") "f" = .ok {} ∧
      load (.only "f" "\x7b\"\\ud800\":1\x7d") "f" = .error (.badConfig "f") := by
  have hsound : Json.Sound (.object [(none, .number "1")]) := by
    refine .object fun member hmember => ?_
    rw [List.mem_singleton.mp hmember]
    exact .number (Json.isLiteral_toString 1)
  have htext : Json.IsText (.object []) "\x7b\x7d".toList :=
    Json.isText_compact (.object fun _ hnone => absurd hnone List.not_mem_nil)
  have hother : Json.IsText (.object [(none, .number "1")]) "\x7b\"\\ud800\":1\x7d".toList :=
    Json.isText_compact hsound
  have horderly : Orderly [] := ⟨by decide, fun _ _ _ hnone => absurd hnone List.not_mem_nil⟩
  have hedit : Edit [] [(none, .number "1")] := @Edit.insert [] [] none _ (by decide)
  refine ⟨htext, hother, horderly, hedit, (hedit.alike horderly).1, ?_, ?_⟩
  · exact load_orderly (FileView.readText_only _ _) htext horderly (by decide)
  · rw [load_object (FileView.readText_only _ _) hother, ofJson?_of_unnamed (by decide)]

end Config

end Runbook
