import BankStatement.Decimal.Basic
import BankStatement.Text.Ascii

/-!
# Number tokens

A number token is an optional sign followed by a numeral or by one of the names `inf`, `infinity`
and `nan` in any letter case.  A numeral has at least one digit, at most one point and an optional
exponent; nothing stands before or after it, not even a blank.  Amount columns may write the point
as a comma: the first comma of a token counts as one.
-/

namespace BankStatement.Decimal

/-- The text with its first comma turned into a point. -/
def commaAsPoint : List Char → List Char
  | [] => []
  | c :: rest => if c = ',' then '.' :: rest else c :: commaAsPoint rest

/-- An optional sign and what follows it; the flag says whether it was a minus. -/
def splitSign : List Char → Bool × List Char
  | '-' :: rest => (true, rest)
  | '+' :: rest => (false, rest)
  | rest => (false, rest)

/-- The exponent part of a numeral: nothing, or a mark, an optional sign and digits to the end.  All
digits count; a reader may stop collecting them once the exponent has reached 65536, which shows
only in numerals of tens of thousands of digits. -/
def exponentPart? : List Char → Option Int
  | [] => some 0
  | c :: rest =>
      if c = 'e' ∨ c = 'E' then
        let (minus, body) := splitSign rest
        if body ≠ [] ∧ body.all isDigit then
          some (if minus then -(ofDigits body : Int) else (ofDigits body : Int))
        else none
      else none

/-- The numeral that a text is, if it is one as a whole. -/
def numeral? (text : List Char) : Option Decimal :=
  let whole := text.takeWhile isDigit
  let afterWhole := text.dropWhile isDigit
  let (fraction, rest) := match afterWhole with
    | '.' :: more => (more.takeWhile isDigit, more.dropWhile isDigit)
    | more => ([], more)
  if whole = [] ∧ fraction = [] then none
  else (exponentPart? rest).map fun exponent =>
    ⟨ofDigits (whole ++ fraction), exponent - fraction.length⟩

/-- The value of a token with a point. -/
def readPointed? (token : List Char) : Option Binary64 :=
  let (minus, body) := splitSign token
  let name := Text.lowered body
  if name = "inf".toList ∨ name = "infinity".toList then some (.infinity minus)
  else if name = "nan".toList then some .nan
  else (numeral? body).map (toBinary64 minus)

/-- The value of a token whose first comma counts as a point. -/
def readToken? (token : String) : Option Binary64 :=
  readPointed? (commaAsPoint token.toList)

end BankStatement.Decimal
