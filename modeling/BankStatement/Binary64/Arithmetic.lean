import BankStatement.Binary64.Basic

/-!
# Binary64 arithmetic

Each operation computes the exact result of finite operands in units and rounds it once.  The
remaining cases are those of infinities, zeros and values that are not a number.
-/

namespace BankStatement.Binary64

/-- The sum.  An exact zero is negative only when both terms are. -/
def add (x y : Binary64) : Binary64 :=
  if x.isNaN || y.isNaN then nan
  else if x.isInfinite then
    if y.isInfinite && x.negative != y.negative then nan else x
  else if y.isInfinite then y
  else
    let sum := x.signedUnits + y.signedUnits
    if sum = 0 then zero (x.negative && y.negative)
    else ofMagnitude (decide (sum < 0)) (nearest sum.natAbs 1)

/-- The product. -/
def mul (x y : Binary64) : Binary64 :=
  let sign := x.negative != y.negative
  if x.isNaN || y.isNaN then nan
  else if x.isInfinite then if y.isZero then nan else infinity sign
  else if y.isInfinite then if x.isZero then nan else infinity sign
  else ofMagnitude sign (nearest (units x.magnitude * units y.magnitude) unitsPerOne)

/-- The quotient. -/
def div (x y : Binary64) : Binary64 :=
  let sign := x.negative != y.negative
  if x.isNaN || y.isNaN then nan
  else if x.isInfinite then if y.isInfinite then nan else infinity sign
  else if y.isInfinite then zero sign
  else if y.isZero then if x.isZero then nan else infinity sign
  else ofMagnitude sign (nearest (units x.magnitude * unitsPerOne) (units y.magnitude))

instance : Add Binary64 := ⟨add⟩
instance : Mul Binary64 := ⟨mul⟩
instance : Div Binary64 := ⟨div⟩

/-- The nearest whole number; a half goes away from zero and the sign bit is kept. -/
def round (x : Binary64) : Binary64 :=
  if x.isFinite then ofRatio x.negative (roundHalfUp (units x.magnitude) unitsPerOne) 1
  else x

end BankStatement.Binary64
