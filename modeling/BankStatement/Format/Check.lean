import BankStatement.Delimited.Delimiter
import BankStatement.Encoding.Label
import BankStatement.Format.Basic

/-!
# Checks on a format

A format can be used when its delimiter and its encoding can be used and when every field but the
amount is read from a single column.
-/

namespace BankStatement

/-- What is wrong with a format. -/
inductive FormatFault where
  | delimiter (error : DelimiterError)
  | encoding (unknown : Encoding.UnknownLabel)
  | notSingleColumn (field : String)
deriving DecidableEq, Repr

def FormatFault.message : FormatFault → String
  | delimiter error => error.message
  | encoding unknown => unknown.message
  | notSingleColumn field => "field '" ++ field ++ "' must read a single column, not a sum"

namespace Format

/-- How the bytes of an input are read: the delimiter, and the encoding if it is not UTF-8. -/
structure Dialect where
  delimiter : UInt8
  encoding? : Option Encoding
deriving DecidableEq, Repr

/-- The dialect of a format. -/
def dialect (format : Format) : Except FormatFault Dialect :=
  match delimiterByte format.delimiter with
  | .error e => .error (.delimiter e)
  | .ok delimiter =>
      match Encoding.resolve format.encodingLabel with
      | .error e => .error (.encoding e)
      | .ok encoding? => .ok ⟨delimiter, encoding?⟩

/-- The first field other than the amount that is read from a sum. -/
def sumField? (format : Format) : Option String :=
  (format.fields.named.find? fun field => field.1 != "trnamt" && !field.2.isColumn).map (·.1)

/-- The first thing that is wrong with a format. -/
def check (format : Format) : Except FormatFault Unit :=
  match format.dialect with
  | .error fault => .error fault
  | .ok _ =>
      match format.sumField? with
      | some field => .error (.notSingleColumn field)
      | none => .ok ()

end Format

end BankStatement
