import Runbook.Config.Saving
import Runbook.Proofs.Config.Document
import Runbook.Proofs.Host.Writing
import Runbook.Proofs.Path

/-!
# Configurations that are loaded as they were saved

`load_save`: a configuration that was saved is loaded from the same path. A relative working directory is
then one seen from the directory of the file, and nothing else differs.
-/

namespace Runbook

namespace Config

open Host (Site)

theorem besides_eq (path cwd : String) :
    besides path cwd = String.ofList (Path.join ((Path.parent? path.toList).getD []) cwd.toList) := by
  unfold besides
  cases Path.parent? path.toList with
  | none => rw [Option.getD_none, Path.join_nil, String.ofList_toList]
  | some parent => rfl

theorem besides_of_absolute {cwd : String} (h : Path.isAbsolute cwd.toList = true) (path : String) :
    besides path cwd = cwd := by
  rw [besides_eq, Path.join_of_absolute h, String.ofList_toList]

theorem besides_of_nil {path : String} (h : (Path.parent? path.toList).getD [] = []) (cwd : String) :
    besides path cwd = cwd := by
  rw [besides_eq, h, Path.join_nil, String.ofList_toList]

/-! ## Saving and loading -/

theorem writeText_of_save {config : Config} {site saved : Site} {path : String}
    (h : config.save site path = .ok saved) : site.writeText path config.toText = .ok saved := by
  rw [save] at h
  cases hwrite : site.writeText path config.toText with
  | error error =>
    rw [hwrite] at h
    cases h
  | ok written =>
    rw [hwrite] at h
    exact congrArg Except.ok (Except.ok.inj h)

/-- What is loaded from the path of a configuration that was saved. -/
theorem load_of_save {config : Config} {site saved : Site} {path : String}
    (hkeeps : site.keeps path = true) (hsave : config.save site path = .ok saved) :
    load saved.view path = .ok { config with cwd := config.cwd.map (besides path) } := by
  have htext := Host.Site.readText_writeText hkeeps (writeText_of_save hsave)
  rw [load, htext]
  dsimp only
  rw [read?_toText]

/-- **A configuration is loaded as it was saved**, under every path that keeps what is written. A working
directory that is relative is seen from the directory of the file; one that is absolute, and every one
if that directory is not named, stays what it was. -/
theorem load_save {config : Config} {site saved : Site} {path : String}
    (hkeeps : site.keeps path = true) (hsave : config.save site path = .ok saved) :
    let directory := (Path.parent? path.toList).getD []
    load saved.view path = .ok { config with
      cwd := config.cwd.map fun cwd =>
        if Path.isAbsolute cwd.toList then cwd else String.ofList (Path.join directory cwd.toList) } ∧
    ((∀ cwd ∈ config.cwd, Path.isAbsolute cwd.toList = true) ∨ directory = [] →
      load saved.view path = .ok config) := by
  intro directory
  have hload := load_of_save hkeeps hsave
  constructor
  · have hcwd : besides path = fun cwd =>
        if Path.isAbsolute cwd.toList then cwd else String.ofList (Path.join directory cwd.toList) := by
      funext cwd
      by_cases habsolute : Path.isAbsolute cwd.toList = true
      · rw [if_pos habsolute, besides_of_absolute habsolute]
      · rw [if_neg habsolute, besides_eq]
    rw [hload, hcwd]
  · intro hstays
    have hcwd : config.cwd.map (besides path) = config.cwd := by
      cases hgiven : config.cwd with
      | none => rfl
      | some cwd =>
        rw [hgiven] at hstays
        rcases hstays with habsolute | hdirectory
        · rw [Option.map_some, besides_of_absolute (habsolute cwd rfl)]
        · rw [Option.map_some, besides_of_nil hdirectory]
    rw [hload, hcwd]

theorem load_save_relative :
    ∃ saved,
      ({ shell := true, cwd := some "a" } : Config).save (Site.standard []) "tmp/runs.json" = .ok saved ∧
        load saved.view "tmp/runs.json" = .ok { shell := true, cwd := some "tmp/a" } := by
  have hkeeps : (Site.standard []).keeps "tmp/runs.json" = true := by decide +kernel
  have hsaves : (({ shell := true, cwd := some "a" } : Config).save (Site.standard [])
      "tmp/runs.json").isOk = true := by decide +kernel
  cases hsave : ({ shell := true, cwd := some "a" } : Config).save (Site.standard []) "tmp/runs.json" with
  | error error =>
    rw [hsave] at hsaves
    cases hsaves
  | ok saved => exact ⟨saved, rfl, (load_save hkeeps hsave).1⟩

/-- A device that keeps nothing takes a configuration, and then there is none to load. -/
theorem load_save_void :
    ∃ saved, ({ shell := true } : Config).save (Site.standard []) "/dev/null" = .ok saved ∧
      load saved.view "/dev/null" = .error (.badConfig "/dev/null") := by
  have hloads : (({ shell := true } : Config).save (Site.standard []) "/dev/null").map
      (fun saved => load saved.view "/dev/null") = .ok (.error (.badConfig "/dev/null")) := by
    decide +kernel
  cases hsave : ({ shell := true } : Config).save (Site.standard []) "/dev/null" with
  | error error =>
    rw [hsave] at hloads
    cases hloads
  | ok saved =>
    rw [hsave] at hloads
    exact ⟨saved, rfl, Except.ok.inj hloads⟩

end Config

end Runbook
