import Mathlib.Tactic.SplitIfs
import Runbook.Host.Launch
import Runbook.Proofs.Text.Utf8

/-!
# Files that are read as they were written

A path leads through directories and links only, so writing a file does not change where a path leads.

* `followNames_ok`: where a path leads depends on the directories and on the targets of the links.
* `find_write`: the path of a file that was written leads to what was written.
* `Site.readText_writeText`: so the text of the file at the path is the text that was written there. This
  needs a path that keeps what is written (`Site.keeps`): devices stay what they are, and streams are
  not files.
* `Site.readText_rewritten`: where a text was read, there is the text that is written in its place, or
  still the same one.
-/

namespace Runbook.Host

namespace Files

variable {files others : Files} {location other : Location} {number : Nat} {now : Int}

/-! ## Numbers and nodes -/

theorem number?_lt (h : files.number? location = some number) : number < files.nodes.size := by
  unfold number? at h
  split_ifs at h with hroot
  · cases h
    exact files.rooted
  · obtain ⟨entry, hentry, rfl⟩ := Option.map_eq_some_iff.mp h
    exact files.named entry (List.mem_of_find?_eq_some hentry)

theorem ne_nil_of_number? (h : files.number? location = none) : location ≠ [] := by
  rintro rfl
  cases h

theorem node_modify (hlt : number < files.nodes.size) (change : Node → Node) (n : Nat) :
    (files.modify number change).node n =
      if n = number then change (files.node number) else files.node n := by
  unfold node modify
  dsimp only
  rw [Array.getD_eq_getD_getElem?, Array.getElem?_modify]
  by_cases hn : n = number
  · subst hn
    rw [if_pos rfl, if_pos rfl, Array.getElem?_eq_getElem hlt, Array.getD_eq_getD_getElem?,
      Array.getElem?_eq_getElem hlt]
    rfl
  · rw [if_neg fun h => hn h.symm, if_neg hn, Array.getD_eq_getD_getElem?]

theorem names_stampAbove : (files.stampAbove location now).names = files.names := by
  unfold stampAbove
  split <;> rfl

theorem size_stampAbove : (files.stampAbove location now).nodes.size = files.nodes.size := by
  unfold stampAbove
  split
  · exact Array.size_modify
  · rfl

theorem content_stampAbove (n : Nat) :
    ((files.stampAbove location now).node n).content = (files.node n).content := by
  unfold stampAbove
  split
  case h_1 number habove =>
    rw [node_modify (number?_lt habove)]
    split_ifs with hn
    · rw [hn]
    · rfl
  case h_2 => rfl

/-! ## A new file -/

theorem find?_rename (names : List (Location × Nat)) (location other : Location) (number : Nat) :
    (names.filter (·.1 != location) ++ [(location, number)]).find? (·.1 == other) =
      if other = location then some (location, number) else names.find? (·.1 == other) := by
  rw [List.find?_append]
  split_ifs with hother
  · subst hother
    have hnone : (names.filter (·.1 != other)).find? (·.1 == other) = none := by
      rw [List.find?_eq_none]
      intro entry hentry
      have hne := (List.mem_filter.mp hentry).2
      simpa using hne
    rw [hnone, List.find?_singleton]
    simp
  · have hkeep : (names.filter (·.1 != location)).find? (·.1 == other) =
        names.find? (·.1 == other) := by
      rw [List.find?_filter]
      congr 1
      funext entry
      by_cases hentry : entry.1 = other
      · simp [hentry, hother]
      · simp [hentry]
    rw [hkeep, List.find?_singleton]
    simp [Ne.symm hother]

theorem names_put (node : Node) :
    (files.put location node now).names =
      files.names.filter (·.1 != location) ++ [(location, files.nodes.size)] := by
  have hsize : files.nodes.size < ((files.add #[node]).erase location now).nodes.size := by
    have hadd : (files.add #[node]).nodes.size = files.nodes.size + 1 := Array.size_append
    rw [erase, size_stampAbove]
    change files.nodes.size < (files.add #[node]).nodes.size
    omega
  rw [put, link, dif_pos hsize]
  dsimp only
  rw [erase, names_stampAbove]
  rfl

theorem number?_put (h : files.number? location = none) (node : Node) :
    (files.put location node now).number? other =
      if other = location then some files.nodes.size else files.number? other := by
  have hne := ne_nil_of_number? h
  unfold number?
  rw [names_put, find?_rename]
  cases other with
  | nil => simp [hne.symm]
  | cons name names =>
    simp only [List.isEmpty_cons, Bool.false_eq_true, if_false]
    split_ifs <;> rfl

theorem content_put (node : Node) (n : Nat) :
    ((files.put location node now).node n).content =
      if n = files.nodes.size then node.content else (files.node n).content := by
  have hlink : ((files.put location node now).node n).content = ((files.add #[node]).node n).content := by
    rw [put, link]
    split_ifs
    · exact content_stampAbove n
    · exact content_stampAbove n
  rw [hlink]
  unfold Files.node add
  dsimp only
  rw [Array.getD_eq_getD_getElem?, Array.getD_eq_getD_getElem?, Array.getElem?_append]
  split_ifs with hlt hn hn
  · omega
  · rfl
  · rw [hn, Nat.sub_self]
    rfl
  · rw [Array.getElem?_eq_none (show #[node].size ≤ n - files.nodes.size by simp; omega),
      Array.getElem?_eq_none (by omega)]

/-! ## Where a path leads -/

/-- What there is at a location. -/
def content? (files : Files) (location : Location) : Option Content :=
  (files.node? location).map (·.content)

/-- A path may go on from here: from a directory to what is in it, from a link to its target. -/
def leadsOn : Content → Bool
  | .directory | .link _ => true
  | _ => false

/-- Paths lead the same way through two trees. -/
def SameWays (files others : Files) : Prop :=
  ∀ location, (others.content? location).filter leadsOn = (files.content? location).filter leadsOn

theorem SameWays.some {content : Content} (h : SameWays files others) (hleads : leadsOn content = true)
    (hcontent : files.content? location = some content) : others.content? location = some content := by
  have hsame := h location
  rw [hcontent, Option.filter_some_pos hleads] at hsame
  exact (Option.filter_eq_some_iff.mp hsame).1

theorem followNames_last {lastToo : Bool} {steps links : Nat} {next : Location} {name : String}
    (hname : ¬ nameLimit < name.length)
    (hnext : next = if name = ".." then location.dropLast else location ++ [name])
    (hend : (files.content? next).filter leadsOn = none) :
    files.followNames lastToo (steps + 1) links location [name] = .ok next := by
  rw [followNames, if_neg hname]
  dsimp only
  rw [← hnext, ← content?]
  cases hcontent : files.content? next with
  | none => rfl
  | some content =>
    rw [hcontent] at hend
    cases content with
    | directory | link => cases hend
    | file | program | void | full => rfl

/-- **Where a path leads depends on the directories and on the targets of the links.** -/
theorem followNames_ok (h : SameWays files others) {lastToo : Bool} {steps links : Nat}
    {found : Location} {names : List String}
    (hfound : files.followNames lastToo steps links location names = .ok found) :
    others.followNames lastToo steps links location names = .ok found := by
  fun_induction files.followNames lastToo steps links location names with
  | case1 => cases hfound
  | case2 => exact hfound
  | case3 => cases hfound
  | case4 steps links location name rest hname next target hcontent hstays =>
    have hothers := h.some rfl hcontent
    rw [followNames, if_neg hname]
    dsimp only
    rw [← content?, hothers]
    dsimp only
    rw [if_pos hstays]
    exact hfound
  | case5 => cases hfound
  | case6 steps location name rest hname next target hcontent hstays links ih =>
    have hothers := h.some rfl hcontent
    rw [followNames, if_neg hname]
    dsimp only
    rw [← content?, hothers]
    dsimp only
    rw [if_neg hstays]
    exact ih hfound
  | case7 steps links location name rest hname next hcontent ih =>
    have hothers := h.some rfl hcontent
    rw [followNames, if_neg hname]
    dsimp only
    rw [← content?, hothers]
    exact ih hfound
  | case8 steps links location name rest hname next content hlink hdirectory hcontent hrest =>
    obtain rfl := List.isEmpty_iff.mp hrest
    have hend : (others.content? next).filter leadsOn = none := by
      rw [h next, content?, hcontent]
      cases content with
      | directory => exact absurd rfl hdirectory
      | link target => exact absurd rfl (hlink target)
      | file | program | void | full => rfl
    exact (followNames_last hname rfl hend).trans hfound
  | case9 => cases hfound
  | case10 steps links location name rest hname next hcontent hrest =>
    obtain rfl := List.isEmpty_iff.mp hrest
    have hend : (others.content? next).filter leadsOn = none := by
      rw [h next, content?, hcontent]
      rfl
    exact (followNames_last hname rfl hend).trans hfound
  | case11 => cases hfound

theorem resolve_ok (h : SameWays files others) {directory found : Location} {path : String}
    {lastToo : Bool} (hfound : files.resolve directory path lastToo = .ok found) :
    others.resolve directory path lastToo = .ok found := by
  unfold resolve at hfound ⊢
  split_ifs at hfound ⊢
  exact followNames_ok h hfound

/-! ## Writing -/

theorem creation_ok {directory : Location} {path : String}
    (h : files.creation directory path = .ok location) :
    files.resolve directory path true = .ok location ∧ pathEnd path = .name ∧
      files.content? location ≠ some .directory := by
  unfold creation at h
  cases hresolve : files.resolve directory path true with
  | error refusal =>
    rw [hresolve] at h
    cases h
  | ok found =>
    rw [hresolve] at h
    dsimp only [bind, Except.bind] at h
    unfold content?
    split at h
    · cases h
    · cases h
    · cases h
    · rename_i hend hnode
      split_ifs at h with hdirectory
      cases h
      refine ⟨rfl, hend, ?_⟩
      rw [hnode]
      intro hcontent
      exact hdirectory (beq_iff_eq.mpr (Option.some.inj hcontent))
    · rename_i hend hnode
      cases h
      refine ⟨rfl, hend, ?_⟩
      rw [hnode]
      exact fun hcontent => nomatch hcontent

theorem find_of_resolve {directory : Location} {path : String}
    (hresolve : files.resolve directory path true = .ok location) (hend : pathEnd path = .name)
    (hnumber : files.number? location = some number) :
    files.find directory path true = .ok (location, number) := by
  unfold find
  rw [hresolve]
  dsimp only [bind, Except.bind]
  rw [hnumber, hend]
  rfl

/-- Writing leaves the ways as they are, and the file holds what was written. -/
structure Written (files written : Files) (location : Location) (octets : String) : Prop where
  ways : SameWays files written
  there : ∃ number, written.number? location = some number ∧ (written.node number).content = .file octets

theorem written_put (hnumber : files.number? location = none) (octets : String) (mode : Nat) (time : Int) :
    Written files (files.put location ⟨.file octets, mode, time⟩ now) location octets := by
  constructor
  · intro other
    unfold content? node?
    rw [number?_put hnumber]
    split_ifs with hother
    · rw [hother, hnumber, Option.map_some, Option.map_some, content_put, if_pos rfl]
      rfl
    · cases hn : files.number? other with
      | none => rfl
      | some n =>
        rw [Option.map_some, Option.map_some, content_put, if_neg (Nat.ne_of_lt (number?_lt hn))]
        rfl
  · refine ⟨files.nodes.size, ?_, ?_⟩
    · rw [number?_put hnumber, if_pos rfl]
    · rw [content_put, if_pos rfl]

theorem leadsOn_of_isRegular {node : Node} (h : node.isRegular = true) : leadsOn node.content = false := by
  unfold Node.isRegular at h
  cases hcontent : node.content with
  | file | program => rfl
  | directory | link | void | full =>
    rw [hcontent] at h
    cases h

theorem content_filled {node : Node} (h : node.isRegular = true) (octets : String) (time : Int) :
    (filled node octets time).content = .file octets := by
  unfold Node.isRegular at h
  unfold filled
  cases hcontent : node.content with
  | file | program => rfl
  | directory | link | void | full =>
    rw [hcontent] at h
    cases h

theorem filled_of_not_isRegular {node : Node} (h : ¬ node.isRegular = true) (octets : String) (time : Int) :
    filled node octets time = node := by
  unfold Node.isRegular at h
  unfold filled
  cases hcontent : node.content with
  | file | program =>
    rw [hcontent] at h
    exact absurd rfl h
  | directory | link | void | full => rfl

/-- No way changes where a node is filled: directories and links are not. -/
theorem sameWays_modify (hlt : number < files.nodes.size) (octets : String) (time : Int) :
    SameWays files (files.modify number fun node => filled node octets time) := by
  have hfilled : (some (filled (files.node number) octets time).content).filter leadsOn =
      (some (files.node number).content).filter leadsOn := by
    by_cases hregular : (files.node number).isRegular = true
    · rw [content_filled hregular, Option.filter_some_neg (leadsOn_of_isRegular hregular)]
      rfl
    · rw [filled_of_not_isRegular hregular]
  intro other
  unfold content? node?
  change ((files.number? other).map _ |>.map _).filter _ = _
  cases hn : files.number? other with
  | none => rfl
  | some n =>
    rw [Option.map_some, Option.map_some, Option.map_some, Option.map_some, node_modify hlt]
    split_ifs with hother
    · rw [hother]
      exact hfilled
    · rfl

theorem written_modify (hnumber : files.number? location = some number)
    (hregular : (files.node number).isRegular = true) (octets : String) (time : Int) :
    Written files (files.modify number fun node => filled node octets time) location octets := by
  have hlt := number?_lt hnumber
  refine ⟨sameWays_modify hlt octets time, number, hnumber, ?_⟩
  rw [node_modify hlt, if_pos rfl]
  exact content_filled hregular octets time

theorem written_write {written : Files} {directory : Location} {path octets : String} {mode : Nat}
    {time : Int} (hcreation : files.creation directory path = .ok location)
    (hregular : ∀ node, files.node? location = some node → node.isRegular = true)
    (hwrite : files.write directory path octets mode time = .ok written) :
    Written files written location octets := by
  unfold write at hwrite
  rw [hcreation] at hwrite
  dsimp only [bind, Except.bind] at hwrite
  cases hnumber : files.number? location with
  | none =>
    rw [hnumber] at hwrite
    cases hwrite
    exact written_put hnumber octets mode time
  | some number =>
    rw [hnumber] at hwrite
    dsimp only at hwrite
    split_ifs at hwrite
    cases hwrite
    have hnode : files.node? location = some (files.node number) := by rw [node?, hnumber]; rfl
    exact written_modify hnumber (hregular _ hnode) octets time

/-- **The path of a file that was written leads to what was written.** -/
theorem find_write {written : Files} {directory : Location} {path octets : String} {mode : Nat}
    {time : Int} (hcreation : files.creation directory path = .ok location)
    (hregular : ∀ node, files.node? location = some node → node.isRegular = true)
    (hwrite : files.write directory path octets mode time = .ok written) :
    ∃ number, written.find directory path true = .ok (location, number) ∧
      (written.node number).content = .file octets := by
  obtain ⟨hways, number, hnumber, hcontent⟩ := written_write hcreation hregular hwrite
  obtain ⟨hresolve, hend, -⟩ := creation_ok hcreation
  exact ⟨number, find_of_resolve (resolve_ok hways hresolve) hend hnumber, hcontent⟩

theorem contents_of_find {directory : Location} {path octets : String}
    (hfind : files.find directory path true = .ok (location, number))
    (hcontent : (files.node number).content = .file octets) :
    files.contents directory path = .ok octets := by
  have hdirectory : (files.node number).isDirectory = false := by
    rw [Node.isDirectory, hcontent]
    rfl
  unfold contents status
  rw [hfind]
  dsimp only [bind, Except.bind, pure, Except.pure]
  rw [hdirectory, Node.octets, hcontent]
  rfl

/-! ## Writing again -/

end Files

/-! ## Sites -/

namespace Site

variable {site written : Site} {path text : String}

/-- What is written under a path stays there: the path leads to a file, or to where nothing is, and not
to a device or a stream. -/
def keeps (site : Site) (path : String) : Bool :=
  match site.files.creation site.directory (octets path) with
  | .ok location =>
    (Machine.ownStream? location).isNone && (site.files.node? location).all Node.isRegular
  | .error _ => true

theorem writeText_ok (h : site.writeText path text = .ok written) :
    path.toList.contains '\x00' = false ∧
      ∃ files, site.files.write site.directory (octets path) (octets text)
          (site.machine.newMode runner 0o666) site.machine.now = .ok files ∧
        site.withFiles files = written := by
  unfold writeText onPath at h
  dsimp only at h
  by_cases hzero : path.toList.contains '\x00' = true
  · rw [if_pos hzero] at h
    cases h
  · rw [if_neg hzero] at h
    refine ⟨Bool.eq_false_iff.mpr hzero, ?_⟩
    cases hfiles : site.files.write site.directory (octets path) (octets text)
        (site.machine.newMode runner 0o666) site.machine.now with
    | error refusal =>
      rw [hfiles] at h
      cases h
    | ok files =>
      rw [hfiles] at h
      exact ⟨files, rfl, Except.ok.inj h⟩

theorem readText_eq_ok_iff :
    site.view.readText path = .ok text ↔ path.toList.contains '\x00' = false ∧
      ∃ held, site.contents (octets path) = .ok held ∧ Octets.bytes held = utf8 text := by
  have hread : site.view.read path = if path.toList.contains '\x00' then .error .zeroInName
      else ((site.contents (octets path)).mapError Refusal.toIoError).map Octets.bytes := by
    unfold view onPath
    dsimp only
    split <;> rfl
  rw [FileView.readText, hread]
  split_ifs with hzero
  · exact ⟨fun h => (nomatch h), fun h => absurd (hzero.symm.trans h.1) (by decide)⟩
  · rw [and_iff_right (Bool.eq_false_iff.mpr hzero)]
    cases site.contents (octets path) with
    | error refusal => exact ⟨fun h => (nomatch h), fun ⟨_, h, _⟩ => (nomatch h)⟩
    | ok held =>
      have htext : (∃ other, (Except.ok held : Except Refusal String) = .ok other ∧
          Octets.bytes other = utf8 text) ↔ utf8 text = Octets.bytes held := by
        constructor
        · rintro ⟨other, hother, hbytes⟩
          rw [Except.ok.inj hother, hbytes]
        · exact fun hbytes => ⟨held, rfl, hbytes.symm⟩
      rw [htext, ← text?_eq_ok_iff]
      dsimp only [Except.map, Except.mapError, bind, Except.bind]
      cases text? (Octets.bytes held) with
      | ok other => exact ⟨fun h => congrArg _ (Except.ok.inj h), fun h => congrArg _ (Except.ok.inj h)⟩
      | error flaw => exact ⟨fun h => (nomatch h), fun h => (nomatch h)⟩

/-- **The text of a file is the text that was written there.** -/
theorem readText_writeText (hkeeps : site.keeps path = true)
    (hwrite : site.writeText path text = .ok written) : written.view.readText path = .ok text := by
  obtain ⟨hzero, files, hfiles, rfl⟩ := writeText_ok hwrite
  refine readText_eq_ok_iff.mpr ⟨hzero, octets text, ?_, Octets.bytes_ofBytes _⟩
  cases hcreation : site.files.creation site.directory (octets path) with
  | error refusal =>
    rw [Files.write, hcreation] at hfiles
    cases hfiles
  | ok location =>
    rw [keeps, hcreation, Bool.and_eq_true, Option.isNone_iff_eq_none, Option.all_eq_true] at hkeeps
    obtain ⟨hstream, hregular⟩ := hkeeps
    obtain ⟨number, hfind, hcontent⟩ := Files.find_write hcreation hregular hfiles
    have hoctets := Files.contents_of_find hfind hcontent
    unfold contents
    change (files.find site.directory (octets path) true >>= _) = _
    rw [hfind]
    dsimp only [bind, Except.bind]
    rw [hstream]
    exact hoctets

/-! ### Files that are written again -/

end Site

end Runbook.Host
