import BankStatement.Format.Rule

/-!
# Formats

A format describes the exports of one bank: how rows are split, in which encoding and with which
delimiter, and by which rules the fields of a transaction are taken from a row.
-/

namespace BankStatement

/-- The rules for the fields of a transaction.  Those for the transaction type and the transaction
id are part of every format, but nothing is read by them. -/
structure FieldRules where
  trntype : Rule
  dtposted : Rule
  dtuser : Rule
  trnamt : Rule
  memo : Rule
  ftid : Rule

/-- The rules with their names, in order. -/
def FieldRules.named (rules : FieldRules) : List (String × Rule) :=
  [("trntype", rules.trntype), ("dtposted", rules.dtposted), ("dtuser", rules.dtuser),
   ("trnamt", rules.trnamt), ("memo", rules.memo), ("ftid", rules.ftid)]

/-- A format.  The numbers of header and footer rows are declared and not applied. -/
structure Format where
  name : String
  declaredCurrency : String
  skipHeader : UInt64
  skipFooter : UInt64
  comma : String
  encodingLabel : Option String
  fields : FieldRules

/-- The currency of formats that declare none. -/
def defaultCurrency : String := "NOK"

namespace Format

/-- The delimiter: the first character of `comma`, or a comma when there is none. -/
def delimiter (format : Format) : Char :=
  format.comma.toList.headD ','

/-- The currency of the statements. -/
def currency (format : Format) : String :=
  if format.declaredCurrency.isEmpty then defaultCurrency else format.declaredCurrency

/-- The rules by which transactions are read. -/
def readRules (format : Format) : List Rule :=
  [format.fields.dtposted, format.fields.dtuser, format.fields.trnamt, format.fields.memo]

/-- How many columns a row needs so that every column read is there.  Past the greatest 64-bit
number there is no such count. -/
def requiredColumns? (format : Format) : Option UInt64 :=
  match Rule.maxColumnOf format.readRules with
  | none => some 0
  | some column => if column.toNat + 1 < Nat.pow 2 64 then some (column + 1) else none

/-- The format of a credit card export, as an example. -/
def exampleFormat : Format where
  name := "spv-kreditt"
  declaredCurrency := "NOK"
  skipHeader := 1
  skipFooter := 0
  comma := ";"
  encodingLabel := none
  fields :=
    { trntype := .ofColumn 0
      dtposted := .column 0 .one (some ⟨"%d.%m.%Y"⟩)
      dtuser := .column 1 .one (some ⟨"%d.%m.%Y"⟩)
      trnamt := .sum [.column 3 (.ofInt (-1)) none, .ofColumn 4]
      memo := .ofColumn 2
      ftid := .ofColumn 0 }

end Format

end BankStatement
