import BankStatement.Catalog.Basic
import BankStatement.Conversion.Sink
import BankStatement.Delimited.Reader
import BankStatement.Encoding.Transcoder
import BankStatement.Statement.Ofx

/-!
# Conversions

A conversion reads the rows of a source one by one, makes a transaction of each but the first, logs
the summary of the statement and writes the statement.  Nothing is written before every row has been
read, so a row that gives no transaction leaves output and log as they were.
-/

namespace BankStatement

/-! ## Errors -/

/-- Why a conversion failed. -/
inductive ConversionError where
  | catalog (error : CatalogError)
  | openSource (path reason : String)
  | createOutput (path reason : String)
  | read (reason : String)
  | write (reason : String)
  | malformedRow (line : Nat) (error : RowError)

def ConversionError.message : ConversionError → String
  | catalog error => error.message
  | openSource path reason => "Cannot open " ++ path ++ ": " ++ reason
  | createOutput path reason => "Cannot create " ++ path ++ ": " ++ reason
  | read reason => "CSV error: " ++ reason
  | write reason => "IO error: " ++ reason
  | malformedRow line error =>
      "Line " ++ toString line ++ ", field '" ++ error.field ++ "': " ++ error.error.message

/-! ## Rows -/

variable [NationalDecoders]

/-- A source as UTF-8.  One in another encoding is transcoded while it is read. -/
def Format.Dialect.utf8Source (dialect : Format.Dialect) (source : Source) : Source :=
  match dialect.encoding? with
  | none => source
  | some encoding => (Transcoder.ofSource encoding source).toSource RowReader.readLimit

/-- A reader of the rows of a source, as a dialect splits them. -/
def Format.Dialect.rowReader (dialect : Format.Dialect) (source : Source) : RowReader :=
  .ofSource dialect.delimiter (dialect.utf8Source source)

/-- A reader of the rows of a source, as a format splits them. -/
def Format.rowReader (format : Format) (source : Source) : Except CatalogError RowReader :=
  match format.dialect with
  | .error fault => .error (.invalidFormat format.name fault)
  | .ok dialect => .ok (dialect.rowReader source)

/-- The rows of a source, as a format splits them. -/
def Format.readRows (format : Format) (source : Source) : Except CatalogError RowReading :=
  (format.rowReader source).map RowReader.rows

/-- How many rows at the start are passed over; the number that a format declares is not consulted.
-/
def headerRows : Nat := 1

/-- The transactions of all rows that a reader still gives, after those read so far, of which the
last one comes first.  The first row that gives no transaction ends the reading. -/
def Format.decodeRows (format : Format) (reader : RowReader) (sofar : List Transaction) :
    Except ConversionError (List Transaction) :=
  match _next : reader.next with
  | (.error message, _) => .error (.read message)
  | (.ok none, _) => .ok sofar.reverse
  | (.ok (some row), after) =>
      match format.decode (.ofBytes row.fields) with
      | .error e => .error (.malformedRow row.line e)
      | .ok transaction => format.decodeRows after (transaction :: sofar)
termination_by reader.work
decreasing_by exact RowReader.work_next_lt _next

/-- The transactions of a source. -/
def Format.readTransactions (format : Format) (source : Source) :
    Except ConversionError (List Transaction) :=
  match format.rowReader source with
  | .error e => .error (.catalog e)
  | .ok reader =>
      match reader.skip headerRows with
      | .error message => .error (.read message)
      | .ok reader => format.decodeRows reader []

/-! ## Runs -/

/-- What a conversion is done with. -/
structure Conversion where
  format : Format
  payer : Payer
  accountType : String

/-- What a conversion has done: its result, and output and log after it. -/
structure Outcome where
  result : Except ConversionError Statement
  output : Sink
  log : Sink

namespace Conversion

/-- The statement of a source. -/
def statement (c : Conversion) (source : Source) : Except ConversionError Statement :=
  (c.format.readTransactions source).map fun transactions =>
    ⟨c.format.currency, c.payer, transactions⟩

/-- Writes a statement line by line and flushes the output. -/
def write (c : Conversion) (statement : Statement) (output : Sink) :
    Except ConversionError Unit × Sink :=
  match output.writeLines (Ofx.lines c.accountType statement) with
  | (.error reason, output) => (.error (.write reason), output)
  | (.ok _, output) =>
      match output.flush with
      | .error reason => (.error (.write reason), output)
      | .ok _ => (.ok (), output)

/-- Converts a source. -/
def run (c : Conversion) (source : Source) (output log : Sink) : Outcome :=
  match c.statement source with
  | .error e => ⟨.error e, output, log⟩
  | .ok statement =>
      let log := log.info statement.summary
      match c.write statement output with
      | (.error e, output) => ⟨.error e, output, log⟩
      | (.ok _, output) => ⟨.ok statement, output, log⟩

end Conversion

end BankStatement
