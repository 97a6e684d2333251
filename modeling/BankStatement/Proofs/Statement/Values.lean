import BankStatement.Proofs.Statement.OfxReader

/-!
# The values of a document

Dates, amounts and ids stand in lines of their own, one tag on each.  What a document has for a tag
is read off its lines (`Ofx.valuesOf`), and here it is computed for each of these tags: the lines of
the header and of the elements have none of them (`valuesOf_lines`), and the transactions come one
after another (`valuesOf_transactionsLines`).
-/

namespace BankStatement.Ofx

/-- The values that lines have for a tag, in order. -/
def valuesOf (wanted : String) (lines : List String) : List String :=
  lines.filterMap fun line => (readLine line).bind fun read =>
    if read.1 = wanted then some read.2 else none

theorem valuesOf_nil (wanted : String) : valuesOf wanted [] = [] := rfl

theorem valuesOf_append (wanted : String) (first second : List String) :
    valuesOf wanted (first ++ second) = valuesOf wanted first ++ valuesOf wanted second :=
  List.filterMap_append

theorem valuesOf_cons_tagged {tag : String} (htag : '>' ∉ tag.toList) {value : String}
    (hvalue : PlainText value.toList) (rest : List String) :
    valuesOf tag (tagged tag value :: rest) = value :: valuesOf tag rest := by
  unfold valuesOf
  rw [List.filterMap_cons, readLine_tagged htag, unescape_of_plain hvalue]
  simp

theorem valuesOf_cons_of_ne {wanted tag : String} (htag : '>' ∉ tag.toList) (hne : tag ≠ wanted)
    (value : String) (rest : List String) :
    valuesOf wanted (tagged tag value :: rest) = valuesOf wanted rest := by
  unfold valuesOf
  rw [List.filterMap_cons, readLine_tagged htag]
  simp [hne]

/-! ## Lines without values -/

/-- The tags of dates. -/
def dateTags : List String := ["DTSERVER", "DTSTART", "DTEND", "DTPOSTED", "DTUSER", "DTASOF"]

/-- The tags of dates, amounts and ids. -/
def valueTags : List String := dateTags ++ ["TRNAMT", "BALAMT", "FITID"]

/-- The lines that are the same in every document. -/
theorem valuesOf_constant_lines : ∀ wanted ∈ valueTags,
    valuesOf wanted header = [] ∧ valuesOf wanted ["<OFX>"] = [] ∧
    valuesOf wanted ["<SIGNONMSGSRSV1>", "<SONRS>"] = [] ∧ valuesOf wanted status = [] ∧
    valuesOf wanted ["</SONRS>", "</SIGNONMSGSRSV1>"] = [] ∧
    valuesOf wanted ["<BANKMSGSRSV1>", "<STMTTRNRS>", tagged "TRNUID" "0"] = [] ∧
    valuesOf wanted ["</BANKTRANLIST>"] = [] ∧
    valuesOf wanted ["</STMTRS>", "</STMTTRNRS>", "</BANKMSGSRSV1>", "</OFX>"] = [] := by
  decide

section

variable {wanted : String}

/-- A line with a tag of another kind. -/
theorem valuesOf_cons_other (hwanted : wanted ∈ valueTags) {tag : String} (htag : '>' ∉ tag.toList)
    (hother : tag ∉ valueTags) (value : String) (rest : List String) :
    valuesOf wanted (tagged tag value :: rest) = valuesOf wanted rest := by
  apply valuesOf_cons_of_ne htag
  rintro rfl
  exact hother hwanted

/-- A line that opens or closes an element. -/
theorem valuesOf_cons_element (hwanted : wanted ∈ valueTags) {line : String}
    (hline : ∀ wanted ∈ valueTags, valuesOf wanted [line] = []) (rest : List String) :
    valuesOf wanted (line :: rest) = valuesOf wanted rest := by
  rw [← List.singleton_append, valuesOf_append, hline wanted hwanted, List.nil_append]

theorem valuesOf_signOnLines (hwanted : wanted ∈ valueTags) (last : String) :
    valuesOf wanted (signOnLines last) = valuesOf wanted [tagged "DTSERVER" last] := by
  obtain ⟨_, _, hopen, hstatus, hclose, _⟩ := valuesOf_constant_lines wanted hwanted
  have hlanguage : valuesOf wanted (tagged "LANGUAGE" "ENG" :: ["</SONRS>", "</SIGNONMSGSRSV1>"]) =
      [] := by
    rw [valuesOf_cons_other hwanted (by decide) (by decide), hclose]
  unfold signOnLines
  rw [valuesOf_append, valuesOf_append, hopen, hstatus, ← List.singleton_append, valuesOf_append,
    hlanguage]
  simp only [List.nil_append, List.append_nil]

theorem valuesOf_currencyLines (hwanted : wanted ∈ valueTags) (currency : String) :
    valuesOf wanted ["<STMTRS>", tagged "CURDEF" (escape currency)] = [] := by
  rw [valuesOf_cons_element hwanted (by decide),
    valuesOf_cons_other hwanted (by decide) (by decide)]
  rfl

theorem valuesOf_accountLines (hwanted : wanted ∈ valueTags) (accountType : String)
    (payer : Payer) : valuesOf wanted (accountLines accountType payer) = [] := by
  unfold accountLines
  rw [valuesOf_cons_element hwanted (by decide),
    valuesOf_cons_other hwanted (by decide) (by decide),
    valuesOf_cons_other hwanted (by decide) (by decide),
    valuesOf_cons_other hwanted (by decide) (by decide), valuesOf_cons_element hwanted (by decide)]
  rfl

theorem valuesOf_balanceLines (hwanted : wanted ∈ valueTags) (total last : String) :
    valuesOf wanted (balanceLines total last) =
      valuesOf wanted [tagged "BALAMT" total, tagged "DTASOF" last] := by
  have hclose : valuesOf wanted ["</LEDGERBAL>"] = [] :=
    valuesOf_cons_element hwanted (by decide) []
  calc valuesOf wanted (balanceLines total last)
      = valuesOf wanted ([tagged "BALAMT" total, tagged "DTASOF" last] ++ ["</LEDGERBAL>"]) :=
        valuesOf_cons_element hwanted (by decide) _
    _ = valuesOf wanted [tagged "BALAMT" total, tagged "DTASOF" last] := by
        rw [valuesOf_append, hclose, List.append_nil]

/-- The values of a document: server time, period, transactions and balance. -/
theorem valuesOf_lines (hwanted : wanted ∈ valueTags) (accountType : String)
    (statement : Statement) :
    valuesOf wanted (lines accountType statement) =
      valuesOf wanted [tagged "DTSERVER" (dateText (statement.postedRange.map (·.2))),
        tagged "DTSTART" (dateText (statement.postedRange.map (·.1))),
        tagged "DTEND" (dateText (statement.postedRange.map (·.2)))] ++
      (valuesOf wanted (transactionsLines 1 statement.transactions) ++
        valuesOf wanted [tagged "BALAMT" (amount statement.total),
          tagged "DTASOF" (dateText (statement.postedRange.map (·.2)))]) := by
  obtain ⟨hheader, hopen, _, hstatus, _, hrequest, hend, hclose⟩ :=
    valuesOf_constant_lines wanted hwanted
  have hperiod : ∀ start last,
      valuesOf wanted ["<BANKTRANLIST>", tagged "DTSTART" start, tagged "DTEND" last] =
        valuesOf wanted [tagged "DTSTART" start, tagged "DTEND" last] :=
    fun _ _ => valuesOf_cons_element hwanted (by decide) _
  have hserver : ∀ server start last, valuesOf wanted [tagged "DTSERVER" server,
      tagged "DTSTART" start, tagged "DTEND" last] =
        valuesOf wanted [tagged "DTSERVER" server] ++
          valuesOf wanted [tagged "DTSTART" start, tagged "DTEND" last] :=
    fun _ _ _ => valuesOf_append wanted [_] _
  unfold lines
  simp only [valuesOf_append, hheader, hopen, valuesOf_signOnLines hwanted, hrequest, hstatus,
    valuesOf_currencyLines hwanted, valuesOf_accountLines hwanted, hperiod, hserver,
    valuesOf_balanceLines hwanted, hend, hclose, List.nil_append, List.append_nil,
    List.append_assoc]

/-! ## Transactions -/

theorem valuesOf_transactionLines (hwanted : wanted ∈ valueTags) (transaction : Transaction)
    (number : Nat) : valuesOf wanted (transactionLines transaction number) =
      valuesOf wanted [tagged "DTPOSTED" (dateText transaction.posted)] ++
        (valuesOf wanted (userLines transaction.user) ++
          valuesOf wanted [tagged "TRNAMT" (amount transaction.amount),
            tagged "FITID" (transactionId transaction number)]) := by
  have hmemo : valuesOf wanted (memoLines transaction.memo) = [] := by
    unfold memoLines
    split
    · rfl
    · exact valuesOf_cons_other hwanted (by decide) (by decide) _ []
  have hopen : valuesOf wanted ["<STMTTRN>", tagged "TRNTYPE" transaction.kind.name,
      tagged "DTPOSTED" (dateText transaction.posted)] =
        valuesOf wanted [tagged "DTPOSTED" (dateText transaction.posted)] := by
    rw [valuesOf_cons_element hwanted (by decide),
      valuesOf_cons_other hwanted (by decide) (by decide)]
  have hclose : valuesOf wanted ["</STMTTRN>"] = [] :=
    valuesOf_cons_element hwanted (by decide) []
  unfold transactionLines
  simp only [valuesOf_append, hopen, hmemo, hclose, List.append_nil, List.append_assoc]

end

theorem valuesOf_userLines_of_ne {wanted : String} (h : "DTUSER" ≠ wanted)
    (user : Option Moment) : valuesOf wanted (userLines user) = [] := by
  cases user with
  | none => rfl
  | some moment => exact valuesOf_cons_of_ne (by decide) h _ []

theorem valuesOf_userLines (user : Option Moment) :
    valuesOf "DTUSER" (userLines user) = user.toList.map fun moment => dateText (some moment) := by
  cases user with
  | none => rfl
  | some moment => exact valuesOf_cons_tagged (by decide) (plainText_dateText _) []

theorem valuesOf_kind (transaction : Transaction) (number : Nat) :
    valuesOf "TRNTYPE" (transactionLines transaction number) = [transaction.kind.name] := by
  have hopen : valuesOf "TRNTYPE" ["<STMTTRN>", tagged "TRNTYPE" transaction.kind.name,
      tagged "DTPOSTED" (dateText transaction.posted)] = [transaction.kind.name] := by
    rw [← List.singleton_append, valuesOf_append,
      valuesOf_cons_tagged (by decide) (plainText_kind transaction.kind),
      valuesOf_cons_of_ne (by decide) (by decide)]
    rfl
  have hamount : valuesOf "TRNTYPE" [tagged "TRNAMT" (amount transaction.amount),
      tagged "FITID" (transactionId transaction number)] = [] := by
    rw [valuesOf_cons_of_ne (by decide) (by decide), valuesOf_cons_of_ne (by decide) (by decide)]
    rfl
  have hmemo : valuesOf "TRNTYPE" (memoLines transaction.memo) = [] := by
    unfold memoLines
    split
    · rfl
    · exact valuesOf_cons_of_ne (by decide) (by decide) _ []
  have hclose : valuesOf "TRNTYPE" ["</STMTTRN>"] = [] := by decide
  unfold transactionLines
  simp only [valuesOf_append, hopen, valuesOf_userLines_of_ne (by decide : "DTUSER" ≠ "TRNTYPE"),
    hamount, hmemo, hclose, List.append_nil]

theorem valuesOf_amount (transaction : Transaction) (number : Nat) :
    valuesOf "TRNAMT" (transactionLines transaction number) = [amount transaction.amount] := by
  simp (disch := first | decide | exact plainText_amount ..) only [valuesOf_nil,
    valuesOf_cons_of_ne, valuesOf_cons_tagged, valuesOf_transactionLines, valuesOf_userLines_of_ne,
    List.nil_append]

/-- The values of transactions are those of one after another, numbered from `number` on. -/
theorem valuesOf_transactionsLines (wanted : String) (number : Nat)
    (transactions : List Transaction) :
    valuesOf wanted (transactionsLines number transactions) =
      (transactions.zipIdx number).flatMap fun entry =>
        valuesOf wanted (transactionLines entry.1 entry.2) := by
  induction transactions generalizing number with
  | nil => rfl
  | cons transaction rest ih =>
      rw [transactionsLines, valuesOf_append, ih, List.zipIdx_cons, List.flatMap_cons]

/-- Values for which the number of a transaction does not matter. -/
theorem flatMap_zipIdx {α β : Type} (f : α → List β) (xs : List α) (number : Nat) :
    (xs.zipIdx number).flatMap (fun entry => f entry.1) = xs.flatMap f := by
  rw [← List.flatMap_map Prod.fst, List.zipIdx_map_fst]

/-! ## The values for each tag -/

section

variable (accountType : String) (statement : Statement)

/-- The values of `TRNAMT` are the amounts of the transactions, in order. -/
theorem valuesOf_transactionAmounts :
    valuesOf "TRNAMT" (lines accountType statement) =
      statement.transactions.map fun transaction => amount transaction.amount := by
  rw [valuesOf_lines (by decide), valuesOf_transactionsLines]
  simp (disch := first | decide | exact plainText_amount ..) only [valuesOf_nil,
    valuesOf_cons_of_ne, valuesOf_amount, List.nil_append, List.append_nil]
  rw [flatMap_zipIdx fun transaction : Transaction => [amount transaction.amount],
    List.map_eq_flatMap]

/-- The values of `FITID` are the ids of the transactions, in order. -/
theorem valuesOf_ids :
    valuesOf "FITID" (lines accountType statement) =
      (statement.transactions.zipIdx 1).map fun entry => transactionId entry.1 entry.2 := by
  rw [valuesOf_lines (by decide), valuesOf_transactionsLines]
  simp (disch := first | decide | exact plainText_transactionId ..) only [valuesOf_nil,
    valuesOf_cons_of_ne, valuesOf_cons_tagged, valuesOf_transactionLines, valuesOf_userLines_of_ne,
    List.nil_append, List.append_nil, List.map_eq_flatMap]

/-- The values of `DTPOSTED` are the posting dates of the transactions, in order. -/
theorem valuesOf_postedDates :
    valuesOf "DTPOSTED" (lines accountType statement) =
      statement.transactions.map fun transaction => dateText transaction.posted := by
  rw [valuesOf_lines (by decide), valuesOf_transactionsLines]
  simp (disch := first | decide | exact plainText_dateText ..) only [valuesOf_nil,
    valuesOf_cons_of_ne, valuesOf_cons_tagged, valuesOf_transactionLines, valuesOf_userLines_of_ne,
    List.nil_append, List.append_nil]
  rw [flatMap_zipIdx fun transaction : Transaction => [dateText transaction.posted],
    List.map_eq_flatMap]

/-- The values of `DTUSER` are the user dates of the transactions that have one, in order. -/
theorem valuesOf_userDates :
    valuesOf "DTUSER" (lines accountType statement) =
      (statement.transactions.flatMap (·.user.toList)).map fun moment =>
        dateText (some moment) := by
  rw [valuesOf_lines (by decide), valuesOf_transactionsLines]
  simp (disch := decide) only [valuesOf_nil, valuesOf_cons_of_ne, valuesOf_transactionLines,
    valuesOf_userLines, List.nil_append, List.append_nil]
  rw [flatMap_zipIdx fun transaction : Transaction =>
    transaction.user.toList.map fun moment => dateText (some moment), List.map_flatMap]

/-- A tag that transactions do not have. -/
theorem valuesOf_transactionsLines_of_ne {wanted : String} (hwanted : wanted ∈ valueTags)
    (hposted : "DTPOSTED" ≠ wanted) (huser : "DTUSER" ≠ wanted) (hamount : "TRNAMT" ≠ wanted)
    (hid : "FITID" ≠ wanted) (number : Nat) (transactions : List Transaction) :
    valuesOf wanted (transactionsLines number transactions) = [] := by
  rw [valuesOf_transactionsLines, List.flatMap_eq_nil_iff]
  intro entry _
  rw [valuesOf_transactionLines hwanted, valuesOf_userLines_of_ne huser,
    valuesOf_cons_of_ne (by decide) hposted, valuesOf_cons_of_ne (by decide) hamount,
    valuesOf_cons_of_ne (by decide) hid]
  rfl

/-- The value of `BALAMT` is the total. -/
theorem valuesOf_balance :
    valuesOf "BALAMT" (lines accountType statement) = [amount statement.total] := by
  rw [valuesOf_lines (by decide)]
  simp (disch := first | decide | exact plainText_amount ..) only [valuesOf_nil,
    valuesOf_cons_of_ne, valuesOf_cons_tagged, valuesOf_transactionsLines_of_ne, List.nil_append]

/-- The values of `DTSERVER`, `DTEND` and `DTASOF` are the last posting date. -/
theorem valuesOf_lastDate : ∀ wanted ∈ ["DTSERVER", "DTEND", "DTASOF"],
    valuesOf wanted (lines accountType statement) =
      [dateText (statement.postedRange.map (·.2))] := by
  intro wanted hwanted
  simp only [List.mem_cons, List.not_mem_nil, or_false] at hwanted
  rcases hwanted with rfl | rfl | rfl <;> rw [valuesOf_lines (by decide)] <;>
    simp (disch := first | decide | exact plainText_dateText ..) only [valuesOf_nil,
      valuesOf_cons_of_ne, valuesOf_cons_tagged, valuesOf_transactionsLines_of_ne, List.nil_append,
      List.append_nil]

/-- The value of `DTSTART` is the first posting date. -/
theorem valuesOf_firstDate :
    valuesOf "DTSTART" (lines accountType statement) =
      [dateText (statement.postedRange.map (·.1))] := by
  rw [valuesOf_lines (by decide)]
  simp (disch := first | decide | exact plainText_dateText ..) only [valuesOf_nil,
    valuesOf_cons_of_ne, valuesOf_cons_tagged, valuesOf_transactionsLines_of_ne, List.append_nil]

end

end BankStatement.Ofx
