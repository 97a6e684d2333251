import BankStatement.Amount
import BankStatement.Calendar.Pattern
import BankStatement.CommandLine.Directory
import BankStatement.Conversion.Run
import BankStatement.Decimal.Token
import BankStatement.Delimited.Delimiter
import BankStatement.Delimited.Feed
import BankStatement.Encoding.Transcoder
import BankStatement.Encoding.WholeText
import BankStatement.Format.Check
import BankStatement.Format.Document
import BankStatement.Json.Printer
import BankStatement.Json.Reading
import BankStatement.Json.Schema
import BankStatement.Main
import BankStatement.Proofs.Calendar.WrittenHours
import BankStatement.Proofs.Catalog.Columns
import BankStatement.Proofs.Catalog.Loading
import BankStatement.Proofs.Catalog.Shaped
import BankStatement.Proofs.CommandLine.Failure
import BankStatement.Proofs.CommandLine.Overwriting
import BankStatement.Proofs.Conversion.Atomicity
import BankStatement.Proofs.Conversion.Diagnostics
import BankStatement.Proofs.Conversion.MalformedLine
import BankStatement.Proofs.Conversion.Noninterference
import BankStatement.Proofs.Conversion.Refinement
import BankStatement.Proofs.Conversion.SummaryLine
import BankStatement.Proofs.Conversion.WrittenDates
import BankStatement.Proofs.Delimited.QuotedRows
import BankStatement.Proofs.Delimited.Transcoded
import BankStatement.Proofs.Encoding.Buffers
import BankStatement.Proofs.Encoding.Interrupted
import BankStatement.Proofs.Format.Numbers
import BankStatement.Proofs.Format.RequiredColumns
import BankStatement.Proofs.Statement.Balance
import BankStatement.Proofs.Statement.Documents
import BankStatement.Proofs.Statement.Ids
import BankStatement.Proofs.Statement.OfxReader
import BankStatement.Proofs.Statement.Period
import BankStatement.Proofs.Statement.ShownAmounts
import BankStatement.Proofs.Statement.WrittenTags
import BankStatement.Statement.Document
import BankStatement.Statement.Ofx
import BankStatement.Text.Blank
import BankStatement.Text.Quoted
import BankStatement.Text.Utf8
