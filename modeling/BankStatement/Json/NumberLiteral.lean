import BankStatement.Decimal.Basic
import BankStatement.Json.Fault
import BankStatement.Json.Value

/-!
# Numbers of documents

A number is an optional minus, digits without a leading zero, an optional fraction and an optional
exponent.  Without fraction and exponent it is an integer, as long as it fits in 64 bits and is not
`-0`; every other number is a binary64 value, and has to be finite when it is read.
-/

namespace BankStatement.Json

/-- What is met where a number should begin: a number, with its value and what follows it, or faults
for one who reads it and one who skips it. -/
inductive NumberScan where
  | number (value : Except Fault Number) (rest : List Char)
  | torn (read skip : Fault)

/-- Digits are missing before the rest.  At the end of the text, only who reads the number knows
that the text has ended. -/
def digitsMissing (rest : List Char) : NumberScan :=
  match rest with
  | [] => .torn ⟨.endInValue, .atEnd⟩ ⟨.invalidNumber, .atEnd⟩
  | _ => .torn ⟨.invalidNumber, .at rest⟩ ⟨.invalidNumber, .at rest⟩

/-- The greatest exponent that is counted digit by digit. -/
def exponentLimit : Nat := 2147483647

/-- What follows the digits of an exponent, or those that already take it past the limit. -/
def afterExponent (value : Nat) : List Char → List Char
  | [] => []
  | c :: rest =>
      if Decimal.isDigit c then
        let value := 10 * value + Decimal.digitValue c
        if exponentLimit < value then rest else afterExponent value rest
      else c :: rest

/-- A number with a fraction or an exponent, which stands for the binary64 number nearest to it; a
reader that trades the last bit for speed may be off by one unit there.  `reach` is how far the text
was looked at when the number is found to be too large. -/
def realNumber (minus : Bool) (d : Decimal) (reach : List Char) : Except Fault Number :=
  let x := d.toBinary64 minus
  if x.isFinite then .ok (.real x) else .error ⟨.numberOutOfRange, ⟨reach, 0⟩⟩

/-- A number without fraction and exponent. -/
def wholeNumber (minus : Bool) (n : Nat) (reach : List Char) : Except Fault Number :=
  if minus then
    if n = 0 ∨ Nat.pow 2 63 < n then realNumber true ⟨n, 0⟩ reach else .ok (.integer (-(n : Int)))
  else if n < Nat.pow 2 64 then .ok (.integer n)
  else realNumber false ⟨n, 0⟩ reach

/-- The exponent part of a number, after its mark; `d` is the number without it. -/
def scanExponent (minus : Bool) (d : Decimal) (text : List Char) : NumberScan :=
  let (down, body) := match text with
    | '+' :: rest => (false, rest)
    | '-' :: rest => (true, rest)
    | rest => (false, rest)
  let digits := body.takeWhile Decimal.isDigit
  let rest := body.dropWhile Decimal.isDigit
  if digits = [] then digitsMissing body
  else
    let exponent : Int := Decimal.ofDigits digits
    let d : Decimal := ⟨d.coefficient, d.exponent + (if down then -exponent else exponent)⟩
    .number (realNumber minus d (afterExponent 0 body)) rest

/-- The rest of a number after its whole digits. -/
def scanFraction (minus : Bool) (whole text : List Char) : NumberScan :=
  match text with
  | '.' :: body =>
      let digits := body.takeWhile Decimal.isDigit
      let rest := body.dropWhile Decimal.isDigit
      let d : Decimal := ⟨Decimal.ofDigits (whole ++ digits), -(digits.length : Int)⟩
      if digits = [] then digitsMissing body
      else match rest with
        | 'e' :: more | 'E' :: more => scanExponent minus d more
        | _ => .number (realNumber minus d rest) rest
  | 'e' :: more | 'E' :: more => scanExponent minus ⟨Decimal.ofDigits whole, 0⟩ more
  | _ => .number (wholeNumber minus (Decimal.ofDigits whole) text) text

/-- A number after its sign. -/
def scanUnsigned (minus : Bool) (text : List Char) : NumberScan :=
  match text with
  | '0' :: rest =>
      if (rest.head?.map Decimal.isDigit).getD false then
        .torn ⟨.invalidNumber, .at rest⟩ ⟨.invalidNumber, .at rest⟩
      else scanFraction minus ['0'] rest
  | _ =>
      let whole := text.takeWhile Decimal.isDigit
      if whole = [] then digitsMissing text
      else scanFraction minus whole (text.dropWhile Decimal.isDigit)

/-- A number. -/
def scanNumber (text : List Char) : NumberScan :=
  match text with
  | '-' :: rest => scanUnsigned true rest
  | _ => scanUnsigned false text

end BankStatement.Json
