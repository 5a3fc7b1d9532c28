/-!
# Rounding

A quotient is rounded to the nearest whole number; a half goes to the even neighbour.
-/

namespace SlopLint.Number

/-- The quotient rounded to a whole number; a half goes to the even neighbour. -/
def roundHalfEven (num den : Nat) : Nat :=
  let quotient := num / den
  let twice := 2 * (num % den)
  if twice < den then quotient
  else if den < twice then quotient + 1
  else if quotient % 2 = 0 then quotient else quotient + 1

end SlopLint.Number
