import Runbook.Error

/-!
# Options that make sense

`Options.misuse?` gives the first reason, in a fixed order, why a primitive cannot honour options.
-/

namespace Runbook

/-- No variable can have this name. -/
def isBadVariable (name : String) : Bool :=
  name.isEmpty || name.toList.contains '=' || name.toList.contains '\x00'

/-- The first reason why the options make no sense for the primitive. -/
def Options.misuse? (options : Options) (primitive : Primitive) : Option Misuse :=
  if primitive ≠ .run ∧ options.captureOutput then some (.capture primitive)
  else if primitive ≠ .run ∧ options.check then some (.check primitive)
  else if options.executable = some "" then some .noExecutable
  else if options.timeout.any (·.isZero) then some .noTime
  else (options.env.find? (isBadVariable ·.1)).map (.badVariable ·.1)

/-- The options make sense for the primitive. -/
def Options.validate (options : Options) (primitive : Primitive) : Except Error Unit :=
  match options.misuse? primitive with
  | some misuse => .error (.misuse misuse)
  | none => .ok ()

end Runbook
