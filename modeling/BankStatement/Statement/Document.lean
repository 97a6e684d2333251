import BankStatement.Calendar.Directive
import BankStatement.Json.Printer
import BankStatement.Json.Reading
import BankStatement.Statement.Basic

/-!
# Statements in documents

How statements are written in a document and read from one.
-/

namespace BankStatement

namespace Moment

def toValue (date : Option Moment) : Json.Value :=
  match date with
  | some moment => .string (String.ofList moment.documentText)
  | none => .null

/-- A moment written as a string. -/
def ofTree (tree : Json.Tree) : Json.Result Moment :=
  match Json.textNamed "a formatted date and time string" tree with
  | .error e => .error e
  | .ok text =>
      match Moment.ofDocumentText text.toList with
      | .ok moment => .ok moment
      | .error fault => .error (.mismatch (.badText fault.message))

end Moment

namespace Transaction

def toValue (transaction : Transaction) : Json.Value :=
  .object [("amount", .ofBinary64 transaction.amount),
    ("posted_date", Moment.toValue transaction.posted),
    ("user_date", Moment.toValue transaction.user), ("memo", .string transaction.memo)]

/-- Transactions as a document has them. -/
def shape : Json.RecordShape Transaction where
  name := "TransactionRecord"
  blank := ⟨.zero false, none, none, ""⟩
  slots :=
    [.of "amount" .never Json.real fun amount transaction => { transaction with amount },
     .of "posted_date" .inObjects (Json.optional Moment.ofTree) fun posted transaction =>
      { transaction with posted },
     .of "user_date" .inObjects (Json.optional Moment.ofTree) fun user transaction =>
      { transaction with user },
     .of "memo" .never Json.text fun memo transaction => { transaction with memo }]

end Transaction

namespace Payer

def toValue (payer : Payer) : Json.Value :=
  .object [("account", .string payer.account), ("bank", .string payer.bank)]

/-- Payers as a document has them. -/
def shape : Json.RecordShape Payer where
  name := "PayerIdentity"
  blank := ⟨"", ""⟩
  slots :=
    [.of "account" .never Json.text fun account payer => { payer with account },
     .of "bank" .never Json.text fun bank payer => { payer with bank }]

end Payer

namespace Statement

def toValue (statement : Statement) : Json.Value :=
  .object [("currency", .string statement.currency), ("payer", statement.payer.toValue),
    ("transactions", .array (statement.transactions.map Transaction.toValue))]

/-- The compact text of a statement. -/
def toText (statement : Statement) : String :=
  statement.toValue.toText

/-- Statements as a document has them, where `depth` containers may be entered inside. -/
def shape (depth : Nat) : Json.RecordShape Statement where
  name := "Statement"
  blank := ⟨"", ⟨"", ""⟩, []⟩
  slots :=
    [.of "currency" .never Json.text fun currency statement => { statement with currency },
     .of "payer" .never (Payer.shape.read depth) fun payer statement => { statement with payer },
     .of "transactions" .never (Json.list depth (Transaction.shape.read (depth - 1)))
      fun transactions statement => { statement with transactions }]

/-- The statement that a text writes. -/
def ofText (text : String) : Json.Result Statement :=
  (Json.Document.ofText text.toList).read
    ((shape (Json.nestingLimit - 1)).read Json.nestingLimit)

end Statement

end BankStatement
