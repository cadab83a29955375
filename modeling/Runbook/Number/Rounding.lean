/-!
# Rounding quotients

`roundHalfEven` is the whole number nearest to a quotient; of two that are equally near it is the
even one.
-/

namespace Runbook.Number

/-- The whole number nearest to `num / den`, the even one of two. -/
def roundHalfEven (num den : Nat) : Nat :=
  let quotient := num / den
  let twice := 2 * (num % den)
  if twice < den then quotient
  else if twice = den then quotient + quotient % 2
  else quotient + 1

end Runbook.Number
