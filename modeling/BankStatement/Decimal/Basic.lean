import BankStatement.Binary64.Basic

/-!
# Decimal numerals

A decimal numeral is a natural number of digits and a power of ten.  This module gives the binary64
value nearest to a numeral, and the digits of a natural number as text.
-/

namespace BankStatement

/-- The number `coefficient * 10 ^ exponent`. -/
structure Decimal where
  coefficient : Nat
  exponent : Int
deriving DecidableEq, Repr, Inhabited

namespace Decimal

/-! ## Digits -/

/-- An ASCII decimal digit. -/
def isDigit (c : Char) : Bool :=
  decide ('0' ≤ c) && decide (c ≤ '9')

/-- The value of an ASCII decimal digit. -/
def digitValue (c : Char) : Nat :=
  c.toNat - '0'.toNat

/-- The digit of a value below ten. -/
def digitChar (n : Nat) : Char :=
  Char.ofNat ('0'.toNat + n % 10)

/-- The number that a run of digits writes. -/
def ofDigits (digits : List Char) : Nat :=
  digits.foldl (fun value c => 10 * value + digitValue c) 0

/-- The digits of `n`, without leading zeros; zero is one digit. -/
def digits (n : Nat) : List Char :=
  if n < 10 then [digitChar n] else digits (n / 10) ++ [digitChar (n % 10)]
termination_by n

/-- The digits of `n`, filled with zeros on the left to at least `width`. -/
def paddedDigits (width n : Nat) : List Char :=
  List.replicate (width - (digits n).length) '0' ++ digits n

/-- The digits of an integer, after a `-` when it is negative. -/
def signedDigits (n : Int) : List Char :=
  if n < 0 then '-' :: digits n.natAbs else digits n.natAbs

/-! ## Values -/

/-- Ten to the power `n` for a natural `n`, as numerator and denominator for an integer one. -/
def ratio (d : Decimal) : Nat × Nat :=
  match d.exponent with
  | .ofNat n => (d.coefficient * Nat.pow 10 n, 1)
  | .negSucc n => (d.coefficient, Nat.pow 10 (n + 1))

/-- The binary64 value nearest to a numeral.

A numeral from `10 ^ 310` on is past every finite value, and one up to `10 ^ -330` is nearer to zero
than to the least positive value; both are settled before a power of ten is computed. -/
def toBinary64 (negative : Bool) (d : Decimal) : Binary64 :=
  let size : Int := (digits d.coefficient).length + d.exponent
  if d.coefficient = 0 then .zero negative
  else if 310 < size then .infinity negative
  else if size < -330 then .zero negative
  else .ofRatio negative d.ratio.1 d.ratio.2

end Decimal

end BankStatement
