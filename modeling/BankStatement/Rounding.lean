/-!
# Rounded quotients

Rounding a quotient of natural numbers to a natural number.  Two rules are in use: binary64 results
and printed places send a half to the even neighbour, and cents send it away from zero.
-/

namespace BankStatement

/-- The natural number nearest to `num / den`; a half goes to the even neighbour. -/
def roundHalfEven (num den : Nat) : Nat :=
  let quotient := num / den
  let remainder := num % den
  if 2 * remainder < den then quotient
  else if den < 2 * remainder then quotient + 1
  else if quotient % 2 = 0 then quotient
  else quotient + 1

/-- The natural number nearest to `num / den`; a half goes up, which is away from zero. -/
def roundHalfUp (num den : Nat) : Nat :=
  (2 * num + den) / (2 * den)

end BankStatement
