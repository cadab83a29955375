/-!
# Paths

Paths as they are written: names separated by slashes. Nothing here looks at a file system.

* `Path.parent?` takes the last name off a path, and with it the empty names and dots that stand at the
  end of what is left. The root and the empty path have no parent; the parent of a single name, and
  of a single dot, is the empty path.
* `Path.ancestors` lists a path and its parents. The list ends because a parent is shorter than its path
  (`parent?_length_lt`).
* `Path.join` puts a path after another; an absolute one stands for itself.
-/

namespace Runbook.Path

/-- The path starts at the root. -/
def isAbsolute : List Char → Bool
  | '/' :: _ => true
  | _ => false

/-- The part of a path that is no name, and the names: the slash of the root, or a dot at the start. -/
def anchored : List Char → List Char × List Char
  | '/' :: rest => (['/'], rest)
  | ['.'] => (['.'], [])
  | '.' :: '/' :: rest => (['.'], '/' :: rest)
  | path => ([], path)

/-- Drops empty names and dots from the end of names, which are written backwards. -/
def dropIdle : List Char → List Char
  | '/' :: rest => dropIdle rest
  | ['.'] => []
  | '.' :: '/' :: rest => dropIdle rest
  | names => names

/-- The parent of the names after an anchor. What `dropIdle` leaves ends in a name of at least one
character, whose other characters go with it. -/
def parentAfter (anchor names : List Char) : Option (List Char) :=
  match dropIdle names.reverse with
  | [] => if anchor = ['.'] then some [] else none
  | _ :: rest => some (anchor ++ (dropIdle (rest.dropWhile (· != '/'))).reverse)

/-- The path without its last name. -/
def parent? (path : List Char) : Option (List Char) :=
  parentAfter (anchored path).1 (anchored path).2

theorem dropIdle_length_le (names : List Char) : (dropIdle names).length ≤ names.length := by
  fun_induction dropIdle names with
  | case1 rest ih => simp only [List.length_cons]; omega
  | case2 => simp
  | case3 rest ih => simp only [List.length_cons]; omega
  | case4 => simp

theorem anchored_length (path : List Char) :
    (anchored path).1.length + (anchored path).2.length = path.length := by
  unfold anchored
  split <;> simp <;> omega

theorem parentAfter_length_lt {anchor names parent : List Char}
    (h : parentAfter anchor names = some parent) :
    parent.length < anchor.length + names.length := by
  have hidle := dropIdle_length_le names.reverse
  rw [List.length_reverse] at hidle
  unfold parentAfter at h
  cases hkept : dropIdle names.reverse with
  | nil =>
    rw [hkept] at h
    by_cases hanchor : anchor = ['.']
    · rw [if_pos hanchor] at h
      cases h
      simp only [hanchor, List.length_nil, List.length_cons]
      omega
    · rw [if_neg hanchor] at h
      cases h
  | cons last rest =>
    rw [hkept] at h hidle
    cases h
    have hdrop : (rest.dropWhile (· != '/')).length ≤ rest.length :=
      (List.dropWhile_suffix _).length_le
    have hrest := dropIdle_length_le (rest.dropWhile (· != '/'))
    simp only [List.length_append, List.length_reverse, List.length_cons] at hidle ⊢
    omega

theorem parent?_length_lt {path parent : List Char} (h : parent? path = some parent) :
    parent.length < path.length :=
  anchored_length path ▸ parentAfter_length_lt h

/-- A path and its parents, the path first. -/
def ancestors (path : List Char) : List (List Char) :=
  match _h : parent? path with
  | some parent => path :: ancestors parent
  | none => [path]
termination_by path.length
decreasing_by exact parent?_length_lt _h

/-- The path `rest` as seen from `base`. -/
def join (base rest : List Char) : List Char :=
  if isAbsolute rest then rest
  else if base = [] ∨ base.getLast? = some '/' then base ++ rest
  else base ++ '/' :: rest

end Runbook.Path
