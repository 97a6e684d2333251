import BankStatement.Decimal.Basic

/-!
# The fewest digits that read back

The shortest numeral of a positive finite magnitude is the one with the fewest digits whose nearest
binary64 value is that magnitude; of two such numerals the nearer to the exact value is taken, and
of two equally near ones the even.
-/

namespace BankStatement.Decimal

/-- Whether `10 ^ exponent` is at most `count` units. -/
def powerAtMost (exponent : Int) (count : Nat) : Bool :=
  match exponent with
  | .ofNat n => decide (Nat.pow 10 n * Binary64.unitsPerOne ≤ count)
  | .negSucc n => decide (Binary64.unitsPerOne ≤ count * Nat.pow 10 (n + 1))

/-- The exponent of the leading decimal digit of a positive number of units.

The first guess takes the binary exponent times `log10 2`; it is off by at most one. -/
def leadingExponent (count : Nat) : Int :=
  let guess : Int := ((count.log2 : Int) - 1074) * 30103 / 100000
  if !powerAtMost guess count then guess - 1
  else if powerAtMost (guess + 1) count then guess + 1
  else guess

/-- `count` units over `10 ^ exponent`, as numerator and denominator. -/
def scaled (count : Nat) (exponent : Int) : Nat × Nat :=
  match exponent with
  | .ofNat n => (count, Binary64.unitsPerOne * Nat.pow 10 n)
  | .negSucc n => (count * Nat.pow 10 (n + 1), Binary64.unitsPerOne)

/-- Whether the numeral's nearest magnitude is the given one. -/
def readsBack (d : Decimal) (magnitude : Nat) : Bool :=
  (d.toBinary64 false).magnitude == magnitude

/-- Of the two neighbours of a magnitude on the grid of multiples of `10 ^ exponent`, the nearer one
that reads back. -/
def onGrid? (magnitude : Nat) (exponent : Int) : Option Decimal :=
  let (num, den) := scaled (Binary64.units magnitude) exponent
  let lower : Decimal := ⟨num / den, exponent⟩
  let upper : Decimal := ⟨num / den + 1, exponent⟩
  let near : Decimal := ⟨roundHalfEven num den, exponent⟩
  if readsBack near magnitude then some near
  else if readsBack lower magnitude then some lower
  else if readsBack upper magnitude then some upper
  else none

/-- The first grid with a numeral that reads back, from coarse to fine; `tries` more grids are left
to look at. -/
def searchGrids (magnitude : Nat) (exponent : Int) : (tries : Nat) → Decimal
  | 0 => ⟨(scaled (Binary64.units magnitude) exponent).1 /
      (scaled (Binary64.units magnitude) exponent).2, exponent⟩
  | tries + 1 =>
      match onGrid? magnitude exponent with
      | some d => d
      | none => searchGrids magnitude (exponent - 1) tries

/-- The numeral without trailing zeros; `fuel` bounds their number. -/
def dropZeros (d : Decimal) : (fuel : Nat) → Decimal
  | 0 => d
  | fuel + 1 =>
      if d.coefficient ≠ 0 ∧ d.coefficient % 10 = 0 then
        dropZeros ⟨d.coefficient / 10, d.exponent + 1⟩ fuel
      else d

/-- The numeral with the fewest digits that reads back as the magnitude, which is finite and not
zero.  Seventeen digits always do. -/
def shortest (magnitude : Nat) : Decimal :=
  dropZeros (searchGrids magnitude (leadingExponent (Binary64.units magnitude)) 17) 18

end BankStatement.Decimal
