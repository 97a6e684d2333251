import BankStatement.Rounding

/-!
# Binary64 values

A binary64 value is its 64 bits: a sign and a magnitude of 63 bits.  Magnitudes are ordered as the
absolute values they stand for, the one past the largest finite magnitude is infinity, and those
beyond it are not a number.

Every finite value is a whole multiple of the least positive one, `2 ^ -1074`.  Counting in that
unit (`units`) turns the arithmetic of finite values into arithmetic of natural numbers, and
`nearest` is the one place where a result is rounded.
-/

namespace BankStatement

/-- A binary64 value, given by its bits. -/
structure Binary64 where
  bits : UInt64
deriving DecidableEq, Inhabited

namespace Binary64

/-! ## Sign and magnitude -/

/-- The sign bit. -/
def negative (x : Binary64) : Bool :=
  decide (Nat.pow 2 63 ≤ x.bits.toNat)

/-- The bits without the sign bit. -/
def magnitude (x : Binary64) : Nat :=
  x.bits.toNat % Nat.pow 2 63

/-- The magnitude of infinity: all exponent bits set and no others. -/
def infinityMagnitude : Nat :=
  2047 * Nat.pow 2 52

/-- Neither infinite nor not a number. -/
def isFinite (x : Binary64) : Bool :=
  decide (x.magnitude < infinityMagnitude)

def isInfinite (x : Binary64) : Bool :=
  decide (x.magnitude = infinityMagnitude)

def isNaN (x : Binary64) : Bool :=
  decide (infinityMagnitude < x.magnitude)

/-- Either of the two zeros. -/
def isZero (x : Binary64) : Bool :=
  decide (x.magnitude = 0)

/-- Below zero.  Neither a zero nor a value that is not a number is. -/
def belowZero (x : Binary64) : Bool :=
  x.negative && !x.isZero && !x.isNaN

/-- The value of a sign and a magnitude; magnitudes past infinity count as infinity. -/
def ofMagnitude (negative : Bool) (magnitude : Nat) : Binary64 :=
  ⟨UInt64.ofNat ((if negative then Nat.pow 2 63 else 0) + min magnitude infinityMagnitude)⟩

/-- The value that is not a number. -/
def nan : Binary64 := ⟨0x7ff8000000000000⟩

/-- Zero with the given sign bit. -/
def zero (negative : Bool) : Binary64 := ofMagnitude negative 0

def infinity (negative : Bool) : Binary64 := ofMagnitude negative infinityMagnitude

/-! ## Exact values and rounding -/

/-- The absolute value of a finite magnitude, counted in `2 ^ -1074`. -/
def units (magnitude : Nat) : Nat :=
  if magnitude < Nat.pow 2 52 then magnitude
  else (Nat.pow 2 52 + magnitude % Nat.pow 2 52) * Nat.pow 2 (magnitude / Nat.pow 2 52 - 1)

/-- How many of the unit `2 ^ -1074` make one. -/
def unitsPerOne : Nat := Nat.pow 2 1074

/-- The magnitude nearest to `num / den` units; a half goes to the even magnitude.

The quotient is cut to 53 bits by halving it `shift` times, which is what the magnitude's upper
bits count; a carry out of the 53 bits is carried into them by the addition. -/
def nearest (num den : Nat) : Nat :=
  let whole := num / den
  let shift := if whole < Nat.pow 2 53 then 0 else whole.log2 - 52
  shift * Nat.pow 2 52 + roundHalfEven num (den * Nat.pow 2 shift)

/-- The signed exact value of a finite value, counted in `2 ^ -1074`. -/
def signedUnits (x : Binary64) : Int :=
  if x.negative then -(units x.magnitude : Int) else (units x.magnitude : Int)

/-- The value nearest to `num / den`, with the given sign. -/
def ofRatio (negative : Bool) (num den : Nat) : Binary64 :=
  ofMagnitude negative (nearest (num * unitsPerOne) den)

/-- The value nearest to an integer. -/
def ofInt (n : Int) : Binary64 :=
  ofRatio (decide (n < 0)) n.natAbs 1

def one : Binary64 := ofInt 1

end Binary64

end BankStatement
