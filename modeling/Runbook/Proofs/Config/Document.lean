import Mathlib.Data.List.Nodup
import Runbook.Config.Document
import Runbook.Proofs.Json.RoundTrip
import Runbook.Proofs.Variables

/-!
# Configurations that are read as they were written

* `Variables.ofPairs_pairs`: variables in ascending order are put in without a change.
* `ofJson?_toJson`: a configuration is what its object denotes, member by member.
* `read?_toText`: so is it with its text.
-/

namespace Runbook

/-! ## Variables -/

theorem insertPair_append {name value : String} {pairs : List (String × String)}
    (h : ∀ pair ∈ pairs, pair.1 < name) : insertPair name value pairs = pairs ++ [(name, value)] := by
  induction pairs with
  | nil => rfl
  | cons pair pairs ih =>
    have hlt := h pair List.mem_cons_self
    have hnot : ¬ name < pair.1 := fun hgt => String.lt_irrefl _ (String.lt_trans hlt hgt)
    have hne : name ≠ pair.1 := by
      rintro rfl
      exact hnot hlt
    rw [insertPair, if_neg hnot, if_neg hne, ih fun other hother => h other (List.mem_cons_of_mem _ hother)]
    rfl

namespace Variables

theorem pairs_overlay {vars : Variables} {pairs : List (String × String)}
    (h : Ascending (vars.pairs ++ pairs)) : (vars.overlay pairs).pairs = vars.pairs ++ pairs := by
  induction pairs generalizing vars with
  | nil => exact (List.append_nil _).symm
  | cons pair pairs ih =>
    have hbefore : ∀ other ∈ vars.pairs, other.1 < pair.1 := by
      intro other hother
      exact (List.pairwise_append.mp h).2.2 other hother pair List.mem_cons_self
    have hinsert : (vars.insert pair.1 pair.2).pairs = vars.pairs ++ [pair] := insertPair_append hbefore
    have hrest : Ascending ((vars.insert pair.1 pair.2).pairs ++ pairs) := by
      rw [hinsert, List.append_assoc]
      exact h
    have hpairs := ih hrest
    rw [hinsert, List.append_assoc] at hpairs
    exact hpairs

/-- Pairs in ascending order are variables as they are. -/
theorem ofPairs_pairs (vars : Variables) : ofPairs vars.pairs = vars :=
  eq_of_pairs (pairs_overlay vars.ascending)

end Variables

namespace Config

/-! ## Parts of an object -/

/-- The object of variables. -/
def variablesJson (vars : Variables) : Json :=
  .ofMembers (vars.pairs.map fun pair => (pair.1, Json.ofText pair.2))

theorem named?_ofMembers (members : List (String × Json)) :
    named? (members.map fun member => (some member.1, member.2)) = some members := by
  have hall : members.mapM (fun member => (some member : Option (String × Json))) = some members :=
    List.mapM_pure.trans (congrArg some (List.map_id members))
  rw [named?, List.mapM_map]
  exact hall

theorem variables?_texts (pairs : List (String × String)) :
    variables? (.object (pairs.map fun pair => (some pair.1, Json.ofText pair.2))) =
      some (Variables.ofPairs pairs) := by
  have hall : pairs.mapM (fun pair => (some pair : Option (String × String))) = some pairs :=
    List.mapM_pure.trans (congrArg some (List.map_id pairs))
  rw [variables?, List.mapM_map]
  change (pairs.mapM fun pair => (some pair : Option (String × String))).bind _ = _
  rw [hall]
  rfl

theorem variables?_variablesJson (vars : Variables) : variables? (variablesJson vars) = some vars := by
  rw [variablesJson, Json.ofMembers, List.map_map]
  exact (variables?_texts vars.pairs).trans (congrArg some (Variables.ofPairs_pairs vars))

theorem setAll?_append (config : Config) (members others : List (String × Json)) :
    config.setAll? (members ++ others) = (config.setAll? members).bind (·.setAll? others) := by
  induction members generalizing config with
  | nil => rfl
  | cons member members ih =>
    obtain ⟨name, json⟩ := member
    rw [List.cons_append, setAll?, setAll?]
    cases config.set? name json with
    | none => rfl
    | some next => exact ih next

/-- An optional member sets what it was made of; if it is left out, that is absent. -/
theorem setAll?_optionalMember {α : Type} {name : String} {toJson : α → Json} {put : Option α → Config}
    (h : ∀ a, (put none).set? name (toJson a) = some (put (some a))) (item : Option α) :
    (put none).setAll? (optionalMember name toJson item) = some (put item) := by
  cases item with
  | none => rfl
  | some a =>
    change ((put none).set? name (toJson a)).bind _ = _
    rw [h]
    rfl

/-! ## The object -/

/-- The variables, unless there are none. -/
def givenVariables? (vars : Variables) : Option Variables := if vars.isEmpty then none else some vars

theorem givenVariables?_getD (vars : Variables) :
    (givenVariables? vars).getD Variables.empty = vars := by
  rw [givenVariables?]
  split_ifs with hempty
  · exact Variables.eq_of_pairs (List.isEmpty_iff.mp hempty).symm
  · rfl

/-- All members are optional ones, of which that for the shell is never left out. -/
theorem members_eq (config : Config) :
    config.members =
      optionalMember "echo" Toggle.toJson config.echo ++
        optionalMember "on_exception" Toggle.toJson config.onFailure ++
        optionalMember "encoding" Json.ofText config.encoding ++
        optionalMember "shell" .bool (some config.shell) ++
        optionalMember "cwd" Json.ofText config.cwd ++
        optionalMember "env" variablesJson (givenVariables? config.env) := by
  rw [members, givenVariables?]
  split_ifs <;> rfl

theorem names_optionalMember {α : Type} (name : String) (toJson : α → Json) (item : Option α) :
    ((optionalMember name toJson item).map (·.1)).Sublist [name] := by
  cases item with
  | none => exact List.nil_sublist _
  | some a => exact List.Sublist.refl _

theorem distinct_members (config : Config) : distinct config.members = true := by
  have hnames : (config.members.map (·.1)).Sublist names := by
    rw [members_eq]
    simp only [List.map_append]
    exact (((((names_optionalMember _ _ _).append (names_optionalMember _ _ _)).append
      (names_optionalMember _ _ _)).append (names_optionalMember _ _ _)).append
      (names_optionalMember _ _ _)).append (names_optionalMember _ _ _)
  have hnodup : (config.members.map (·.1)).Nodup := hnames.nodup (by decide)
  rw [distinct, List.all_eq_true]
  intro name _
  exact decide_eq_true (List.nodup_iff_count_le_one.mp hnodup name)

/-- A configuration is what its object denotes. -/
theorem ofJson?_toJson (config : Config) : ofJson? config.toJson = some config := by
  have hread : ofJson? config.toJson = setAll? {} config.members := by
    rw [toJson, Json.ofMembers, ofJson?, named?_ofMembers]
    exact if_pos (distinct_members config)
  obtain ⟨echo, onFailure, encoding, shell, cwd, env⟩ := config
  have hecho : setAll? {} (optionalMember "echo" Toggle.toJson echo) = some { echo } :=
    @setAll?_optionalMember _ _ _ (fun echo => { echo }) (fun toggle => by cases toggle <;> rfl) echo
  have honFailure : setAll? { echo } (optionalMember "on_exception" Toggle.toJson onFailure) =
      some { echo, onFailure } :=
    @setAll?_optionalMember _ _ _ (fun onFailure => { echo, onFailure })
      (fun toggle => by cases toggle <;> rfl) onFailure
  have hencoding : setAll? { echo, onFailure } (optionalMember "encoding" Json.ofText encoding) =
      some { echo, onFailure, encoding } :=
    @setAll?_optionalMember _ _ _ (fun encoding => { echo, onFailure, encoding }) (fun _ => rfl) encoding
  have hshell : setAll? { echo, onFailure, encoding } (optionalMember "shell" .bool (some shell)) =
      some { echo, onFailure, encoding, shell } := rfl
  have hcwd : setAll? { echo, onFailure, encoding, shell } (optionalMember "cwd" Json.ofText cwd) =
      some { echo, onFailure, encoding, shell, cwd } :=
    @setAll?_optionalMember _ _ _ (fun cwd => { echo, onFailure, encoding, shell, cwd }) (fun _ => rfl) cwd
  have henv : setAll? { echo, onFailure, encoding, shell, cwd }
        (optionalMember "env" variablesJson (givenVariables? env)) =
      some { echo, onFailure, encoding, shell, cwd, env } := by
    have hset := @setAll?_optionalMember _ "env" variablesJson
      (fun env => { echo, onFailure, encoding, shell, cwd, env := env.getD Variables.empty })
      (fun vars => congrArg (Option.map _) (variables?_variablesJson vars)) (givenVariables? env)
    rwa [givenVariables?_getD] at hset
  rw [hread, members_eq]
  simp only [setAll?_append, hecho, honFailure, hencoding, hshell, hcwd, henv, Option.bind_some]

/-! ## The text -/

theorem sound_optionalMember {α : Type} {name : String} {toJson : α → Json}
    (h : ∀ a, (toJson a).Sound) (item : Option α) :
    ∀ member ∈ optionalMember name toJson item, member.2.Sound := by
  cases item with
  | none => exact fun _ hmember => nomatch hmember
  | some a =>
    intro member hmember
    rw [List.mem_singleton.mp hmember]
    exact h a

theorem sound_toJson (config : Config) : config.toJson.Sound := by
  have htoggle : ∀ toggle : Toggle, toggle.toJson.Sound := by
    intro toggle
    cases toggle with
    | switch enabled => exact .bool enabled
    | label text => exact .string text
  have hvariables : ∀ vars : Variables, (variablesJson vars).Sound := by
    intro vars
    refine .object fun member hmember => ?_
    obtain ⟨named, hnamed, rfl⟩ := List.mem_map.mp hmember
    obtain ⟨pair, -, rfl⟩ := List.mem_map.mp hnamed
    exact .string _
  refine .object fun member hmember => ?_
  obtain ⟨named, hnamed, rfl⟩ := List.mem_map.mp hmember
  rw [members_eq] at hnamed
  simp only [List.mem_append] at hnamed
  rcases hnamed with ((((hnamed | hnamed) | hnamed) | hnamed) | hnamed) | hnamed
  · exact sound_optionalMember htoggle _ _ hnamed
  · exact sound_optionalMember htoggle _ _ hnamed
  · exact sound_optionalMember (fun _ => .string _) _ _ hnamed
  · exact sound_optionalMember .bool _ _ hnamed
  · exact sound_optionalMember (fun _ => .string _) _ _ hnamed
  · exact sound_optionalMember hvariables _ _ hnamed

/-- **A configuration is read as it was written.** -/
theorem read?_toText (config : Config) : read? config.toText = some config := by
  rw [read?, toText, String.toList_ofList, Json.read?_pretty (sound_toJson config)]
  exact ofJson?_toJson config

end Config

end Runbook
