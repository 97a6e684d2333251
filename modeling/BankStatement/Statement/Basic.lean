import BankStatement.Statement.Transaction

/-!
# Statements

A statement is the list of an account's transactions with the currency they are in.  Its period runs
from the earliest to the latest posting date, and its total is the sum of the amounts in order.
-/

namespace BankStatement

/-- The account that a statement is for, and its bank. -/
structure Payer where
  account : String
  bank : String
deriving DecidableEq, Repr

/-- The payer of statements for which none is given. -/
def Payer.default : Payer := ⟨"0000000000", "Sbanken"⟩

/-- A statement. -/
structure Statement where
  currency : String
  payer : Payer
  transactions : List Transaction
deriving DecidableEq

namespace Statement

/-- A period with one more moment in it. -/
def extend (period : Moment × Moment) (moment : Moment) : Moment × Moment :=
  (period.1.earlier moment, period.2.later moment)

/-- The first and the last posting date; transactions without one do not count. -/
def postedRange (statement : Statement) : Option (Moment × Moment) :=
  match statement.transactions.filterMap (·.posted) with
  | [] => none
  | first :: rest => some (rest.foldl extend (first, first))

/-- The sum of the amounts; that of no amounts is the negative zero. -/
def total (statement : Statement) : Binary64 :=
  statement.transactions.foldl (fun sum transaction => sum + transaction.amount) (.zero true)

/-- A statement on one line. -/
def summary (statement : Statement) : String :=
  "Statement " ++ statement.currency ++ " account=" ++ statement.payer.account ++
    " bank=" ++ statement.payer.bank ++
    " transactions=" ++ toString statement.transactions.length ++
    " [" ++ " ".intercalate (statement.transactions.map Transaction.summary) ++ "]"

end Statement

end BankStatement
