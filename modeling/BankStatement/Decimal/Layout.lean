import BankStatement.Decimal.Shortest

/-!
# Written forms of binary64 values

Two written forms are in use.  Documents carry the fewest digits that read back, positionally for
moderate exponents and with an exponent mark otherwise (`Layout`).  Statements carry a fixed number
of places, rounded from the exact value (`fixed`).
-/

namespace BankStatement.Decimal

/-! ## Fewest digits -/

/-- How a shortest numeral is laid out: which exponents of the leading digit are written
positionally, and what stands before the exponent of the others. -/
structure Layout where
  leastPositional : Int
  greatestPositional : Int
  positiveMark : List Char
  negativeMark : List Char

/-- Documents write leading exponents from -5 to 15 positionally, always with a point, and mark the
others `e+` and `e-`. -/
def Layout.document : Layout where
  leastPositional := -5
  greatestPositional := 15
  positiveMark := ['e', '+']
  negativeMark := ['e', '-']

/-- The digits of a numeral with a point in the right place, at least one digit on either side. -/
def positional (text : List Char) (exponent : Int) : List Char :=
  match exponent with
  | .ofNat zeros => text ++ List.replicate zeros '0' ++ ['.', '0']
  | .negSucc n =>
      let places := n + 1
      if places < text.length then
        text.take (text.length - places) ++ '.' :: text.drop (text.length - places)
      else '0' :: '.' :: List.replicate (places - text.length) '0' ++ text

/-- The digits of a numeral with a point after the first and the exponent after a mark. -/
def Layout.scientific (layout : Layout) (text : List Char) (leading : Int) : List Char :=
  let mantissa := match text with
    | [] => []
    | [c] => [c]
    | c :: rest => c :: '.' :: rest
  let mark := if leading < 0 then layout.negativeMark else layout.positiveMark
  mantissa ++ mark ++ digits leading.natAbs

/-- A numeral in this layout. -/
def Layout.write (layout : Layout) (d : Decimal) : List Char :=
  let text := digits d.coefficient
  let leading : Int := d.exponent + (text.length : Int) - 1
  if layout.leastPositional ≤ leading ∧ leading ≤ layout.greatestPositional then
    positional text d.exponent
  else layout.scientific text leading

/-- A finite value with the fewest digits that read back.  The sign bit is written for zero too. -/
def Layout.writeBinary64 (layout : Layout) (x : Binary64) : List Char :=
  let body := if x.isZero then ['0', '.', '0'] else layout.write (shortest x.magnitude)
  if x.negative then '-' :: body else body

/-! ## Fixed places -/

/-- The digits of `n` hundredths, thousandths or whatever `places` says, with a point. -/
def withPlaces (places n : Nat) : List Char :=
  digits (n / Nat.pow 10 places) ++ '.' :: paddedDigits places (n % Nat.pow 10 places)

/-- A value with the given number of places, rounded from the exact value with a half to the even
neighbour.  The sign bit of a finite value is always written, and that of a value that is not a
number never is. -/
def fixed (places : Nat) (x : Binary64) : List Char :=
  let sign := if x.negative then ['-'] else []
  if x.isNaN then ['N', 'a', 'N']
  else if x.isInfinite then sign ++ ['i', 'n', 'f']
  else
    let count := roundHalfEven (Binary64.units x.magnitude * Nat.pow 10 places) Binary64.unitsPerOne
    sign ++ withPlaces places count

end BankStatement.Decimal
