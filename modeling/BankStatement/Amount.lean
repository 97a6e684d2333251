import BankStatement.Binary64.Arithmetic
import BankStatement.Decimal.Layout

/-!
# Amounts of money

Amounts are binary64 values.  What a statement writes is the amount rounded to cents, and the kind
of a transaction is the sign of the amount as written.
-/

namespace BankStatement

/-- The amount rounded to cents: a hundred times the amount is rounded to a whole number, a half
away from zero, and divided again.  Either zero becomes the positive one. -/
def roundCents (amount : Binary64) : Binary64 :=
  let hundred := Binary64.ofInt 100
  let rounded := (amount * hundred).round / hundred
  if rounded.isZero then .zero false else rounded

/-- The direction of a transaction. -/
inductive TransactionKind where
  | credit
  | debit
deriving DecidableEq, Repr

namespace TransactionKind

/-- Amounts that are below zero once rounded to cents are debits. -/
def ofAmount (amount : Binary64) : TransactionKind :=
  if (roundCents amount).belowZero then debit else credit

/-- The name of a kind in statements. -/
def name : TransactionKind → String
  | credit => "CREDIT"
  | debit => "DEBIT"

end TransactionKind

/-- An amount with two places, as it is. -/
def amountText (amount : Binary64) : String :=
  String.ofList (Decimal.fixed 2 amount)

end BankStatement
