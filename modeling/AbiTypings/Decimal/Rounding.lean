/-!
# Rounding

The natural number nearest to a quotient of natural numbers. It is off by at most one half, and a
quotient that lies half way between two numbers is rounded to the even one.
-/

namespace AbiTypings

/-- A quotient rounded to the nearest natural number, a tie to the even one. -/
def roundQuotient (numerator denominator : Nat) : Nat :=
  let quotient := numerator / denominator
  let twice := 2 * (numerator % denominator)
  if denominator < twice ∨ (denominator = twice ∧ quotient % 2 = 1) then quotient + 1
  else quotient

end AbiTypings
