import BankStatement.Statement.Basic

/-!
# OFX

The text of a statement in OFX 1.02, one tag on a line.  The time of the server is the last posting
date and transaction ids are made of the posting date and the position, so that the text depends on
the statement alone.
-/

namespace BankStatement.Ofx

/-! ## Values -/

/-- The text of a missing date. -/
def zeroDate : String := "00010101000000"

def dateText (date : Option Moment) : String :=
  match date with
  | some moment => String.ofList moment.digitsText
  | none => zeroDate

/-- An amount in cents. -/
def amount (x : Binary64) : String :=
  amountText (roundCents x)

/-- A character of a text value: markup is escaped and line ends become blanks. -/
def escapeChar : Char → List Char
  | '&' => ['&', 'a', 'm', 'p', ';']
  | '<' => ['&', 'l', 't', ';']
  | '>' => ['&', 'g', 't', ';']
  | '\r' => [' ']
  | '\n' => [' ']
  | c => [c]

def escape (text : String) : String :=
  String.ofList (text.toList.flatMap escapeChar)

/-- The id of a transaction: the date of its posting and its number. -/
def transactionId (transaction : Transaction) (number : Nat) : String :=
  String.ofList ((dateText transaction.posted).toList.take 8) ++ "-" ++ toString number

/-! ## Lines -/

/-- A line with a tag and a value. -/
def tagged (tag value : String) : String :=
  "<" ++ tag ++ ">" ++ value

def header : List String :=
  ["OFXHEADER:100", "DATA:OFXSGML", "VERSION:102", "SECURITY:NONE", "ENCODING:UTF-8",
   "CHARSET:NONE", "COMPRESSION:NONE", "OLDFILEUID:NONE", "NEWFILEUID:NONE", ""]

def status : List String :=
  ["<STATUS>", tagged "CODE" "0", tagged "SEVERITY" "INFO", "</STATUS>"]

/-- The line of a user date, which a missing one does not have. -/
def userLines : Option Moment → List String
  | some moment => [tagged "DTUSER" (dateText (some moment))]
  | none => []

/-- The line of a memo, which an empty one does not have. -/
def memoLines (memo : String) : List String :=
  if memo.isEmpty then [] else [tagged "MEMO" (escape memo)]

/-- The lines of a transaction. -/
def transactionLines (transaction : Transaction) (number : Nat) : List String :=
  ["<STMTTRN>", tagged "TRNTYPE" transaction.kind.name,
   tagged "DTPOSTED" (dateText transaction.posted)] ++
  userLines transaction.user ++
  [tagged "TRNAMT" (amount transaction.amount),
   tagged "FITID" (transactionId transaction number)] ++
  memoLines transaction.memo ++
  ["</STMTTRN>"]

/-- The lines of transactions, numbered from `number` on. -/
def transactionsLines (number : Nat) : List Transaction → List String
  | [] => []
  | transaction :: rest =>
      transactionLines transaction number ++ transactionsLines (number + 1) rest

/-- The account type of statements for which none is given. -/
def defaultAccountType : String := "CHECKING"

/-- The lines about the server, whose time is the last posting date. -/
def signOnLines (last : String) : List String :=
  ["<SIGNONMSGSRSV1>", "<SONRS>"] ++ status ++
  [tagged "DTSERVER" last, tagged "LANGUAGE" "ENG", "</SONRS>", "</SIGNONMSGSRSV1>"]

/-- The lines of an account.  The account type is written as it is. -/
def accountLines (accountType : String) (payer : Payer) : List String :=
  ["<BANKACCTFROM>", tagged "BANKID" (escape payer.bank), tagged "ACCTID" (escape payer.account),
   tagged "ACCTTYPE" accountType, "</BANKACCTFROM>"]

/-- The lines of the balance, which the total stands in for. -/
def balanceLines (total last : String) : List String :=
  ["<LEDGERBAL>", tagged "BALAMT" total, tagged "DTASOF" last, "</LEDGERBAL>"]

/-- The lines of a statement. -/
def lines (accountType : String) (statement : Statement) : List String :=
  let range := statement.postedRange
  let start := dateText (range.map (·.1))
  let last := dateText (range.map (·.2))
  header ++ ["<OFX>"] ++ signOnLines last ++
  ["<BANKMSGSRSV1>", "<STMTTRNRS>", tagged "TRNUID" "0"] ++ status ++
  ["<STMTRS>", tagged "CURDEF" (escape statement.currency)] ++
  accountLines accountType statement.payer ++
  ["<BANKTRANLIST>", tagged "DTSTART" start, tagged "DTEND" last] ++
  transactionsLines 1 statement.transactions ++
  ["</BANKTRANLIST>"] ++ balanceLines (amount statement.total) last ++
  ["</STMTRS>", "</STMTTRNRS>", "</BANKMSGSRSV1>", "</OFX>"]

/-- The text of a statement. -/
def render (accountType : String) (statement : Statement) : String :=
  String.join ((lines accountType statement).map (· ++ "\n"))

end BankStatement.Ofx
