import BankStatement.Amount
import BankStatement.Calendar.Moment
import BankStatement.Format.Basic
import BankStatement.Text.Quoted

/-!
# Transactions

A transaction is what a format reads from one row.  A date that cannot be read is missing and a
number that cannot be read counts as zero, so that only a row without the columns that are read, or
a sum in the place of a text or a date, gives no transaction.
-/

namespace BankStatement

/-- One transaction. -/
structure Transaction where
  amount : Binary64
  posted : Option Moment
  user : Option Moment
  memo : String
deriving DecidableEq

namespace Transaction

def kind (transaction : Transaction) : TransactionKind :=
  .ofAmount transaction.amount

/-- A date in a summary; a dash stands for a missing one. -/
def summaryDate (date : Option Moment) : String :=
  match date with
  | some moment => String.ofList moment.spacedText
  | none => "-"

/-- A transaction in a summary. -/
def summary (transaction : Transaction) : String :=
  "\x7b" ++ transaction.kind.name ++ " " ++ amountText transaction.amount ++
    " posted=" ++ summaryDate transaction.posted ++
    " user=" ++ summaryDate transaction.user ++
    " memo=" ++ String.ofList (Text.quoted transaction.memo.toList) ++ "\x7d"

end Transaction

/-! ## Reading rows -/

/-- Why a row gives no transaction, with the field at which that shows. -/
structure RowError where
  field : String
  error : FieldError
deriving DecidableEq, Repr

def RowError.message (e : RowError) : String :=
  "field '" ++ e.field ++ "': " ++ e.error.message

/-- A result with the field that it is for. -/
def atField {α : Type} (field : String) : Except FieldError α → Except RowError α
  | .ok value => .ok value
  | .error error => .error ⟨field, error⟩

/-- A date that may be missing: only structural errors count. -/
def tolerantDate (field : String) : Except FieldError Moment → Except RowError (Option Moment)
  | .ok moment => .ok (some moment)
  | .error error => if error.isStructural then .error ⟨field, error⟩ else .ok none

/-- The transaction of a row. -/
def Format.decode (format : Format) (row : Row) : Except RowError Transaction := do
  let amount ← atField "trnamt" (format.fields.trnamt.number row)
  let posted ← tolerantDate "dtposted" (format.fields.dtposted.date row)
  let user ← tolerantDate "dtuser" (format.fields.dtuser.date row)
  let memo ← atField "memo" (format.fields.memo.text row)
  return ⟨amount, posted, user, memo⟩

end BankStatement
