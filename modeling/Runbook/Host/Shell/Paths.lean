import Runbook.Host.Files
import Runbook.Host.Shell.Pattern

/-!
# Patterns for paths

The paths that a pattern fits. A pattern is matched name by name: up to the last slash before its first
special character it is taken as it is, and the names in the directory that this leads to are matched.
-/

namespace Runbook.Host.Shell.Paths

/-- A pattern up to the first name in it that is to be matched. -/
structure Start where
  /-- What stands before that name. -/
  before : List Char
  /-- The pattern of the name. -/
  name : List Char
  /-- What comes after the slash behind the name, if there is one. -/
  rest : Option (List Char)

/-- A set of octets ends before a slash. -/
def closes : List Char → Bool
  | [] | '/' :: _ => false
  | '\\' :: c :: rest =>
    c != '/' && (match rest with
      | ']' :: _ => true
      | rest => closes rest)
  | _ :: ']' :: _ => true
  | _ :: rest => closes rest

/-- A set of octets begins after a bracket. -/
def beginsSet (text : List Char) : Bool :=
  match text with
  | '!' :: rest => closes rest
  | rest => closes rest

/-- Finds the first name that is to be matched; none if there is no such name. What was read is
reversed. -/
def startOf? (isSpecial : Bool) (before name : List Char) : List Char → Option Start
  | [] => if isSpecial then some ⟨before.reverse, name.reverse, none⟩ else none
  | '\\' :: '/' :: rest | '/' :: rest =>
    if isSpecial then some ⟨before.reverse, name.reverse, some rest⟩
    else startOf? false ('/' :: (name ++ before)) [] rest
  | '\\' :: c :: rest => startOf? isSpecial before (c :: '\\' :: name) rest
  | c :: rest =>
    let begins := c = '*' || c = '?' || (c = '[' && beginsSet rest)
    startOf? (isSpecial || begins) before (c :: name) rest

/-- A text without the backslashes that take a meaning away. -/
def withoutBackslashes : List Char → List Char
  | '\\' :: c :: rest => c :: withoutBackslashes rest
  | c :: rest => c :: withoutBackslashes rest
  | [] => []

/-- The names that a pattern may fit in a directory, seen from another one. -/
def namesAt (files : Files) (directory : Location) (path : String) : List String :=
  match files.status directory (if path.isEmpty then "." else path) with
  | .ok (location, node) =>
    if node.isDirectory then "." :: ".." :: (files.entries location).map (·.1) else []
  | .error _ => []

/-- The paths that a pattern fits after a path. The first argument bounds the number of slashes. -/
def matching (files : Files) (directory : Location) : Nat → String → List Char → List String
  | 0, _, _ => []
  | steps + 1, path, pattern =>
    match startOf? false [] [] pattern with
    | none =>
      let whole := path ++ String.ofList (withoutBackslashes pattern)
      if !path.isEmpty && (files.find directory whole false).isOk then [whole] else []
    | some start =>
      let path := path ++ String.ofList (withoutBackslashes start.before)
      let glob := Glob.ofText start.name
      let showsHidden := match start.name with
        | '.' :: _ | '\\' :: '.' :: _ => true
        | _ => false
      let fitting := (namesAt files directory path).filter fun name =>
        (showsHidden || name.toList.head? != some '.') && Glob.fits glob name.toList
      fitting.flatMap fun name =>
        match start.rest with
        | none => [path ++ name]
        | some rest => matching files directory steps (path ++ name ++ "/") rest

/-- The paths that a pattern fits, in ascending order. -/
def ofPattern (files : Files) (directory : Location) (pattern : List Char) : List String :=
  (matching files directory (pattern.length + 1) "" pattern).mergeSort (· ≤ ·)

end Runbook.Host.Shell.Paths
