import Mathlib.Data.List.Nodup
import Runbook.Config.Lookup
import Runbook.Proofs.Path
import Runbook.Proofs.Text.Utf8

/-!
# The nearest configuration

* `find?_eq_candidates`: going upwards finds the first of the candidates at which there is something.
* `nodup_candidates`: no candidate is written like another one.
* `AgreeBut`: two states of the files that differ at some paths only. `nearest_counts`: what is found does
  not depend on the candidates behind it, and it is read and told of, whatever it holds.
-/

namespace Runbook

/-- Nothing but one file, which holds a text. -/
def FileView.only (path text : String) : FileView where
  has asked := asked == path
  read asked := if asked = path then .ok (utf8 text) else .error .noEntry

theorem FileView.readText_only (path text : String) : (only path text).readText path = .ok text := by
  have hread : (only path text).read path = .ok (utf8 text) := if_pos rfl
  have htext : text? (utf8 text) = .ok text := text?_eq_ok_iff.mpr rfl
  simp only [readText, hread, bind, Except.bind, htext]
  rfl

/-- The files differ at the given paths only. -/
def FileView.AgreeBut (paths : List String) (files others : FileView) : Prop :=
  ∀ path, path ∉ paths → others.has path = files.has path ∧ others.read path = files.read path

namespace Config

/-! ## The candidates -/

/-- The paths of a configuration in a directory. -/
def inside (directory : List Char) : List String := fileNames.map (inDirectory directory)

theorem search_eq (files : FileView) (directory : List Char) :
    search files directory = ((Path.ancestors directory).flatMap inside).find? files.has := by
  fun_induction search files directory with
  | case1 directory path hfound =>
    rw [Path.ancestors_eq, List.flatMap_cons, List.find?_append, inside, hfound, Option.some_or]
  | case2 directory hnone parent hparent ih =>
    rw [Path.ancestors_eq, hparent, List.flatMap_cons, List.find?_append, inside, hnone, Option.none_or,
      ih]
    rfl
  | case3 directory hnone hparent =>
    rw [Path.ancestors_eq, hparent, List.flatMap_cons, List.find?_append, inside, hnone, Option.none_or]
    rfl

/-- **Going upwards finds the first candidate at which there is something.** -/
theorem find?_eq_candidates (files : FileView) (start : String) :
    find? files start = (candidates start).find? files.has :=
  search_eq files start.toList

theorem getElem?_flatMap_pair {α β : Type} (first second : α → β) (items : List α) (n : Nat) :
    (items.flatMap fun a => [first a, second a])[2 * n]? = items[n]?.map first ∧
      (items.flatMap fun a => [first a, second a])[2 * n + 1]? = items[n]?.map second := by
  induction items generalizing n with
  | nil => exact ⟨rfl, rfl⟩
  | cons a items ih =>
    cases n with
    | zero => exact ⟨rfl, rfl⟩
    | succ n => exact ih n

/-- Each directory gives two candidates, the nearest directory first. -/
theorem getElem?_candidates (start : String) (steps : Nat) :
    (candidates start)[2 * steps]? =
        (Path.above start.toList steps).map (inDirectory · ".runs.json") ∧
      (candidates start)[2 * steps + 1]? =
        (Path.above start.toList steps).map (inDirectory · "runs.json") := by
  rw [← Path.getElem?_ancestors]
  exact getElem?_flatMap_pair (inDirectory · ".runs.json") (inDirectory · "runs.json") _ steps

theorem length_candidates_le (start : String) : (candidates start).length ≤ 2 * (start.length + 1) := by
  have hancestors := Path.length_ancestors_le start.toList
  have hpairs : (candidates start).length = 2 * (Path.ancestors start.toList).length := by
    simp [candidates, List.length_flatMap, List.map_const', Nat.mul_comm, fileNames]
  rw [String.length_toList] at hancestors
  omega

/-! ## Each candidate is there once -/

theorem toList_inDirectory {directory : List Char} {name : String}
    (h : Path.isAbsolute name.toList = false) :
    (inDirectory directory name).toList = Path.slashed directory ++ name.toList := by
  rw [inDirectory, String.toList_ofList, Path.join_eq_slashed h]

theorem plain_of_mem_fileNames {name : String} (h : name ∈ fileNames) :
    Path.isAbsolute name.toList = false ∧ '/' ∉ name.toList := by
  revert name
  decide

theorem nodup_inside (directory : List Char) : (inside directory).Nodup := by
  refine List.Nodup.map_on (fun name hname other hother h => ?_) (by decide)
  have hchars := congrArg String.toList h
  rw [toList_inDirectory (plain_of_mem_fileNames hname).1,
    toList_inDirectory (plain_of_mem_fileNames hother).1] at hchars
  exact String.toList_inj.mp (List.append_cancel_left hchars)

/-- A candidate tells its directory, but for a slash at the end. -/
theorem slashed_of_mem_inside {directory other : List Char} {path : String} (h : path ∈ inside directory)
    (hother : path ∈ inside other) : Path.slashed directory = Path.slashed other := by
  obtain ⟨name, hname, rfl⟩ := List.mem_map.mp h
  obtain ⟨otherName, hotherName, heq⟩ := List.mem_map.mp hother
  obtain ⟨hrelative, hplain⟩ := plain_of_mem_fileNames hname
  obtain ⟨hotherRelative, hotherPlain⟩ := plain_of_mem_fileNames hotherName
  have hchars := congrArg String.toList heq.symm
  rw [toList_inDirectory hrelative, toList_inDirectory hotherRelative] at hchars
  exact Path.slashed_append_inj hplain hotherPlain hchars

/-- **Each candidate is there once.** -/
theorem nodup_candidates (start : String) : (candidates start).Nodup := by
  refine List.nodup_flatMap.mpr ⟨fun directory _ => nodup_inside directory, ?_⟩
  refine (Path.pairwise_ancestors start.toList).imp fun {directory other} hlt path h hother => ?_
  rw [slashed_of_mem_inside h hother] at hlt
  exact Nat.lt_irrefl _ hlt

/-! ## What is found -/

theorem find?_eq_none_iff {files : FileView} {start : String} :
    find? files start = none ↔ ∀ path ∈ candidates start, files.has path = false := by
  rw [find?_eq_candidates, List.find?_eq_none]
  simp only [Bool.not_eq_true]

theorem find?_eq_some_iff {files : FileView} {start path : String} :
    find? files start = some path ↔ files.has path = true ∧ ∃ nearer farther,
      candidates start = nearer ++ path :: farther ∧ ∀ other ∈ nearer, files.has other = false := by
  rw [find?_eq_candidates, List.find?_eq_some_iff_append]
  simp only [Bool.not_eq_true']

theorem discover_of_find? {files : FileView} {start path : String} (h : find? files start = some path) :
    discover files start = load files path := by
  rw [discover, h]

theorem load_of_unreadable {files : FileView} {path : String} {error : IoError}
    (h : files.readText path = .error error) : load files path = .error (.io error) := by
  rw [load, h]

theorem load_of_unsound {files : FileView} {path text : String} (h : files.readText path = .ok text)
    (hread : read? text = none) : load files path = .error (.badConfig path) := by
  rw [load, h]
  dsimp only
  rw [hread]

theorem load_congr {files others : FileView} {path : String} (h : others.read path = files.read path) :
    load others path = load files path := by
  rw [load, load, FileView.readText, FileView.readText, h]

/-- What is found does not depend on the candidates behind it. -/
theorem find?_of_agreeBut {files changed : FileView} {start path : String} {nearer farther : List String}
    (hcandidates : candidates start = nearer ++ path :: farther) (hhas : files.has path = true)
    (hnearer : ∀ other ∈ nearer, files.has other = false) (h : files.AgreeBut farther changed) :
    find? changed start = some path ∧ changed.read path = files.read path := by
  have hnodup := nodup_candidates start
  rw [hcandidates] at hnodup
  obtain ⟨-, hrest, hapart⟩ := List.nodup_append.mp hnodup
  have hpath := h path (List.nodup_cons.mp hrest).1
  refine ⟨find?_eq_some_iff.mpr ⟨hpath.1.trans hhas, nearer, farther, hcandidates, ?_⟩, hpath.2⟩
  intro other hother
  have hfar : other ∉ farther := fun hmem => hapart other hother other (List.mem_cons_of_mem _ hmem) rfl
  rw [(h other hfar).1, hnearer other hother]

/-- **The nearest configuration counts.** The candidates are two paths in each directory upwards, each of
them once. The first of them at which there is something is the one that is loaded, also if this fails, and
whatever becomes of the candidates behind it. -/
theorem nearest_counts (files : FileView) (start : String) :
    (∀ steps,
      (candidates start)[2 * steps]? =
          (Path.above start.toList steps).map (inDirectory · ".runs.json") ∧
        (candidates start)[2 * steps + 1]? =
          (Path.above start.toList steps).map (inDirectory · "runs.json")) ∧
      (candidates start).length ≤ 2 * (start.length + 1) ∧ (candidates start).Nodup ∧
      find? files start = (candidates start).find? files.has ∧
      (find? files start = none ↔ ∀ path ∈ candidates start, files.has path = false) ∧
      (find? files start = none → discover files start = .ok {}) ∧
      ∀ path, find? files start = some path →
        ∃ nearer farther, candidates start = nearer ++ path :: farther ∧ files.has path = true ∧
          (∀ other ∈ nearer, files.has other = false) ∧
          discover files start = load files path ∧
          (∀ error, files.readText path = .error error → discover files start = .error (.io error)) ∧
          (∀ text, files.readText path = .ok text → read? text = none →
            discover files start = .error (.badConfig path)) ∧
          ∀ changed, files.AgreeBut farther changed →
            find? changed start = some path ∧ discover changed start = discover files start := by
  refine ⟨getElem?_candidates start, length_candidates_le start, nodup_candidates start,
    find?_eq_candidates files start, find?_eq_none_iff, fun hnone => ?_, fun path hfound => ?_⟩
  · rw [discover, hnone]
  · obtain ⟨hhas, nearer, farther, hcandidates, hnearer⟩ := find?_eq_some_iff.mp hfound
    have hload := discover_of_find? hfound
    refine ⟨nearer, farther, hcandidates, hhas, hnearer, hload, fun error hread => ?_,
      fun text htext hread => ?_, fun changed hagree => ?_⟩
    · rw [hload, load_of_unreadable hread]
    · rw [hload, load_of_unsound htext hread]
    · obtain ⟨hagain, hread⟩ := find?_of_agreeBut hcandidates hhas hnearer hagree
      exact ⟨hagain, by rw [hload, discover_of_find? hagain, load_congr hread]⟩

/-- A file nearby that holds no configuration, and a file above it that comes and goes. -/
theorem nearest_counts_unsound :
    let text := "\x7b\"shell\": tru\x7d"
    let files := FileView.only "/a/runs.json" text
    let changed : FileView :=
      ⟨fun path => path == "/a/runs.json" || path == "/runs.json", fun path =>
        if path = "/runs.json" then .ok (utf8 "\x7b\x7d") else files.read path⟩
    find? files "/a/b" = some "/a/runs.json" ∧ read? text = none ∧
      discover files "/a/b" = .error (.badConfig "/a/runs.json") ∧
      discover changed "/a/b" = .error (.badConfig "/a/runs.json") := by
  intro text files changed
  obtain ⟨-, -, -, -, -, -, hfinds⟩ := nearest_counts files "/a/b"
  have hcandidates : candidates "/a/b" = ["/a/b/.runs.json", "/a/b/runs.json", "/a/.runs.json"] ++
      "/a/runs.json" :: ["/.runs.json", "/runs.json"] := by cbv
  have hfound : find? files "/a/b" = some "/a/runs.json" := by
    rw [find?_eq_candidates, hcandidates]
    rfl
  have hread : read? text = none := by decide +kernel
  obtain ⟨nearer, farther, hsplit, -, -, -, -, hunsound, hfarther⟩ := hfinds _ hfound
  have hdiscover := hunsound text (FileView.readText_only _ _) hread
  have hfar : farther = ["/.runs.json", "/runs.json"] := by
    rw [hcandidates, List.append_cons_inj_of_notMem (by decide) (by decide)] at hsplit
    exact hsplit.2.2.symm
  have hagree : files.AgreeBut farther changed := by
    intro path hpath
    have hother : path ≠ "/runs.json" := by
      rintro rfl
      exact hpath (by rw [hfar]; decide)
    exact ⟨by simp [changed, files, FileView.only, hother], if_neg hother⟩
  exact ⟨hfound, hread, hdiscover, (hfarther changed hagree).2.trans hdiscover⟩

/-- A file far above does not count while there is one nearby. -/
example : find? { has := (["/runs.json", "/a/runs.json"].contains ·), read := fun _ => .error .noEntry }
    "/a/./b/" = some "/a/runs.json" := by
  rw [find?_eq_candidates]
  cbv

end Config

end Runbook
