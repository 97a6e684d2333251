import BankStatement.Binary64.Arithmetic
import BankStatement.Calendar.Pattern
import BankStatement.Decimal.Token
import BankStatement.Text.Utf8

/-!
# Field rules

A field rule takes one value from a row.  A column rule reads one column, as text, as a date or as a
number; a sum rule adds up the numbers of its parts, to any depth, and gives nothing else.
-/

namespace BankStatement

/-! ## Rows -/

/-- The tokens of a row. -/
abbrev Row := List String

/-- The row of fields given as bytes.  Bytes that are not UTF-8 become replacement characters. -/
def Row.ofBytes (fields : List (List UInt8)) : Row :=
  fields.map fun bytes => String.ofList (Utf8.decodeLossy bytes)

/-! ## Errors -/

/-- Why a rule gives no value. -/
inductive FieldError where
  | malformedRow (index : UInt64) (columns : Nat)
  | dateParse (value pattern : String)
  | missingDateFormat
  | numericParse (value : String)
  | compositeField
deriving DecidableEq, Repr

namespace FieldError

def message : FieldError → String
  | malformedRow index columns =>
      "Row has " ++ toString columns ++ " columns, column " ++ toString index.toNat ++ " requested"
  | dateParse value pattern =>
      "Cannot parse '" ++ value ++ "' as a date with pattern '" ++ pattern ++ "'"
  | missingDateFormat => "No date format configured"
  | numericParse value => "Cannot parse '" ++ value ++ "' as a number"
  | compositeField => "Sum rules only produce numbers"

/-- Whether the error lies in the row's shape or the rule's, and not in a token. -/
def isStructural : FieldError → Bool
  | malformedRow .. | compositeField => true
  | _ => false

end FieldError

/-! ## Tokens -/

/-- The token of a column. -/
def Row.token (row : Row) (index : UInt64) : Except FieldError String :=
  match row[index.toNat]? with
  | some token => .ok token
  | none => .error (.malformedRow index row.length)

/-- The number that a token writes. -/
def readNumber (token : String) : Except FieldError Binary64 :=
  match Decimal.readToken? token with
  | some x => .ok x
  | none => .error (.numericParse token)

/-- The moment that a token writes in a pattern. -/
def DatePattern.read (pattern : DatePattern) (token : String) : Except FieldError Moment :=
  match pattern.read? token with
  | some moment => .ok moment
  | none => .error (.dateParse token pattern.source)

/-! ## Rules -/

/-- How a value is taken from a row. -/
inductive Rule where
  | column (index : UInt64) (multiplier : Binary64) (pattern : Option DatePattern)
  | sum (parts : List Rule)

namespace Rule

/-- The rule for a column as it is. -/
def ofColumn (index : UInt64) : Rule :=
  column index .one none

def isColumn : Rule → Bool
  | column .. => true
  | sum _ => false

/-- The text of the rule's column. -/
def text (row : Row) : Rule → Except FieldError String
  | column index _ _ => row.token index
  | sum _ => .error .compositeField

/-- The date in the rule's column. -/
def date (row : Row) : Rule → Except FieldError Moment
  | column index _ pattern =>
      match row.token index with
      | .error e => .error e
      | .ok token =>
          match pattern with
          | none => .error .missingDateFormat
          | some pattern => pattern.read token
  | sum _ => .error .compositeField

/-- The number that a token stands for in an amount: tokens that write no number count as zero. -/
def tokenAmount (token : String) : Binary64 :=
  (Decimal.readToken? token).getD (.zero false)

mutual

/-- The number that the rule gives: the token times the multiplier, or the sum of the parts. -/
def number (row : Row) : Rule → Except FieldError Binary64
  | column index multiplier _ =>
      match row.token index with
      | .error e => .error e
      | .ok token => .ok (tokenAmount token * multiplier)
  | sum parts => addNumbers row (.zero false) parts

/-- The numbers of the parts added to a total, from left to right. -/
def addNumbers (row : Row) (total : Binary64) : List Rule → Except FieldError Binary64
  | [] => .ok total
  | part :: rest =>
      match part.number row with
      | .error e => .error e
      | .ok x => addNumbers row (total + x) rest

end

/-- The greater of two columns, either of which may be missing. -/
def greaterColumn : Option UInt64 → Option UInt64 → Option UInt64
  | none, other => other
  | some one, none => some one
  | some one, some other => some (if one < other then other else one)

mutual

/-- The greatest column that the rule reads at any depth. -/
def maxColumn : Rule → Option UInt64
  | column index _ _ => some index
  | sum parts => maxColumnOf parts

def maxColumnOf : List Rule → Option UInt64
  | [] => none
  | part :: rest => greaterColumn part.maxColumn (maxColumnOf rest)

end

end Rule

end BankStatement
