import BankStatement.Proofs.Conversion.Diagnostics
import BankStatement.Proofs.Conversion.WrittenAmounts

/-!
# The line about a statement

A conversion that succeeds logs a summary and a line feed.  The summary is made of three texts, the
number of transactions and the transactions.  Nothing that it says about a transaction ends a line:
kinds, amounts and dates are plain, and a memo is quoted (`Text.lineEnds_quoted`).  The three texts
are copied, though, so the line ends of a summary are those of the currency, the account and the
bank (`Statement.lineEnds_summary`), and what is logged is one line just when these have none
(`Conversion.lineEnds_of_run`).
-/

namespace BankStatement

/-! ## Line ends -/

/-- The carriage returns and line feeds of a text. -/
def lineEnds (text : List Char) : List Char :=
  text.filter fun c => c = '\r' ∨ c = '\n'

@[simp] theorem lineEnds_append (first second : List Char) :
    lineEnds (first ++ second) = lineEnds first ++ lineEnds second :=
  List.filter_append ..

theorem lineEnds_eq_nil_iff {text : List Char} :
    lineEnds text = [] ↔ ∀ c ∈ text, c ≠ '\r' ∧ c ≠ '\n' := by
  simp [lineEnds]

theorem lineEnds_of_plain {text : List Char} (h : PlainText text) : lineEnds text = [] :=
  lineEnds_eq_nil_iff.mpr fun c hc => ⟨(h c hc).ne (by decide), (h c hc).ne (by decide)⟩

/-- A text that is one line: it ends in a line feed and has no other line ends. -/
def IsLine (text : List Char) : Prop :=
  ∃ line, text = line ++ ['\n'] ∧ lineEnds line = []

theorem isLine_append_iff {line : List Char} : IsLine (line ++ ['\n']) ↔ lineEnds line = [] := by
  constructor
  · rintro ⟨other, hsame, hother⟩
    rwa [List.append_cancel_right hsame]
  · intro h
    exact ⟨line, rfl, h⟩

/-! ## Quoted texts -/

namespace Text

theorem plainText_hexDigits (n : Nat) : PlainText (hexDigits n) := by
  have hdigit : ∀ digit < 16, IsPlain (Nat.digitChar digit) := by decide
  induction n using Nat.strongRecOn with
  | ind n ih =>
      unfold hexDigits
      rw [Nat.toDigits_eq_if (by decide)]
      split
      · next hless => exact PlainText.cons.mpr ⟨hdigit n hless, PlainText.nil⟩
      · next hmore =>
        exact PlainText.append.mpr ⟨ih (n / 16) (by omega),
          PlainText.cons.mpr ⟨hdigit (n % 16) (Nat.mod_lt n (by decide)), PlainText.nil⟩⟩

/-- Line ends have escapes of their own, and no escape brings one in. -/
theorem lineEnds_escapeQuoted (quote c : Char) : lineEnds (escapeQuoted quote c) = [] := by
  by_cases hreturn : c = '\r'
  · rw [hreturn]
    rfl
  by_cases hfeed : c = '\n'
  · rw [hfeed]
    rfl
  have hself : lineEnds [c] = [] := lineEnds_eq_nil_iff.mpr (by simp [hreturn, hfeed])
  have hcode : lineEnds (['\\', 'u', '\x7b'] ++ hexDigits c.toNat ++ ['\x7d']) = [] := by
    rw [lineEnds_append, lineEnds_append, lineEnds_of_plain (plainText_hexDigits c.toNat)]
    rfl
  unfold escapeQuoted
  rw [if_neg hreturn, if_neg hfeed]
  split
  · rfl
  split
  · rfl
  split
  · rfl
  split
  · exact hself
  split
  · exact hcode
  · exact hself

theorem lineEnds_quoted (text : List Char) : lineEnds (quoted text) = [] := by
  have hinside : lineEnds (text.flatMap (escapeQuoted '"')) = [] := by
    induction text with
    | nil => rfl
    | cons c rest ih => rw [List.flatMap_cons, lineEnds_append, lineEnds_escapeQuoted, ih]; rfl
  unfold quoted
  rw [lineEnds_append]
  show lineEnds (text.flatMap (escapeQuoted '"')) ++ [] = []
  rw [hinside, List.append_nil]

end Text

/-! ## Summaries -/

theorem Transaction.lineEnds_summaryDate (date : Option Moment) :
    lineEnds (summaryDate date).toList = [] := by
  cases date with
  | none => rfl
  | some moment =>
      rw [summaryDate, String.toList_ofList]
      exact lineEnds_of_plain moment.plainText_spacedText

theorem Transaction.lineEnds_summary (transaction : Transaction) :
    lineEnds transaction.summary.toList = [] := by
  have hkind : lineEnds transaction.kind.name.toList = [] :=
    lineEnds_of_plain (Ofx.plainText_kind transaction.kind)
  have hamount : lineEnds (amountText transaction.amount).toList = [] := by
    rw [amountText, String.toList_ofList]
    exact lineEnds_of_plain (Decimal.plainText_fixed 2 transaction.amount)
  have hmemo := Text.lineEnds_quoted transaction.memo.toList
  unfold summary
  simp only [String.toList_append, String.toList_ofList, lineEnds_append, hkind, hamount,
    lineEnds_summaryDate, hmemo]
  rfl

theorem lineEnds_intercalate {texts : List String} (h : ∀ text ∈ texts, lineEnds text.toList = []) :
    lineEnds (" ".intercalate texts).toList = [] := by
  induction texts with
  | nil => rfl
  | cons text rest ih =>
      obtain ⟨htext, hrest⟩ := List.forall_mem_cons.mp h
      cases rest with
      | nil => rw [String.intercalate_singleton, htext]
      | cons next others =>
          rw [String.intercalate_cons_cons, String.toList_append, String.toList_append,
            lineEnds_append, lineEnds_append, htext, ih hrest]
          rfl

/-- The line ends of a summary are those of the texts that it copies. -/
theorem Statement.lineEnds_summary (statement : Statement) :
    lineEnds statement.summary.toList =
      lineEnds statement.currency.toList ++ lineEnds statement.payer.account.toList ++
        lineEnds statement.payer.bank.toList := by
  have hcount : lineEnds (toString statement.transactions.length).toList = [] :=
    lineEnds_of_plain (Ofx.plainText_number statement.transactions.length)
  have htransactions :
      lineEnds (" ".intercalate (statement.transactions.map Transaction.summary)).toList = [] :=
    lineEnds_intercalate (List.forall_mem_map.mpr fun transaction _ => transaction.lineEnds_summary)
  unfold summary
  simp only [String.toList_append, lineEnds_append, hcount, htransactions]
  simp [lineEnds]

/-! ## Logs -/

namespace Conversion

section

variable [NationalDecoders]

/-- A conversion that succeeds logs the summary of its statement. -/
theorem log_of_run {c : Conversion} {source : Source} {room : Option Nat} {flushFails : Bool}
    {statement : Statement}
    (h : (c.run source (.ofRoom room flushFails) .unlimited).result = .ok statement) :
    (c.run source (.ofRoom room flushFails) .unlimited).log.written = summaryLine statement := by
  have hcalls : c.diagnostics source = [.info statement.summary] := by
    unfold diagnostics
    rw [(written_of_run h).1]
  rw [run_eq_of_log, hcalls]
  show (Sink.unlimited.info statement.summary).written = summaryLine statement
  rw [info_summary_unlimited]

/-- **When the log is one line.**  The line ends of a summary are those of the currency, the
account and the bank: whatever the memos, dates and amounts are, a summary has no others.  A
conversion that succeeds logs this summary and a line feed, and that is one line just when the
currency of the format and the account and the bank of the payer have no line ends. -/
theorem lineEnds_of_run (c : Conversion) (source : Source) (room : Option Nat)
    (flushFails : Bool) :
    (∀ statement : Statement, lineEnds statement.summary.toList =
      lineEnds statement.currency.toList ++ lineEnds statement.payer.account.toList ++
        lineEnds statement.payer.bank.toList) ∧
    ∀ statement,
      (c.run source (.ofRoom room flushFails) .unlimited).result = .ok statement →
        ∃ text, (c.run source (.ofRoom room flushFails) .unlimited).log.written =
            Utf8.encode text ∧
          text = statement.summary.toList ++ ['\n'] ∧
          (IsLine text ↔ lineEnds c.format.currency.toList = [] ∧
            lineEnds c.payer.account.toList = [] ∧ lineEnds c.payer.bank.toList = []) := by
  refine ⟨Statement.lineEnds_summary, fun statement h =>
    ⟨statement.summary.toList ++ ['\n'], ?_, rfl, ?_⟩⟩
  · rw [log_of_run h, summaryLine, String.toList_append]
    rfl
  · obtain ⟨hstatement, -⟩ := written_of_run h
    have hcopied := eq_of_statement hstatement
    rw [isLine_append_iff, Statement.lineEnds_summary, hcopied]
    simp

end

attribute [local instance] NationalDecoders.asciiOnly

/-- The log about the example's statement is one line. -/
theorem lineEnds_of_run_kiosk :
    let c : Conversion := ⟨.exampleFormat, .default, Ofx.defaultAccountType⟩
    let source : Source := [.bytes 0x68 (Utf8.encode "\n01.02.2024;x;kiosk;;12.5\n".toList)]
    ∃ text, (c.run source .unlimited .unlimited).log.written = Utf8.encode text ∧ IsLine text := by
  intro c source
  obtain ⟨text, hwritten, -, hline⟩ := (lineEnds_of_run c source none false).2 _ result_of_kiosk
  exact ⟨text, hwritten, hline.mpr (by decide)⟩

/-- An account with a line feed: the summary has it, and the log of a conversion has two lines.  A
currency with one does the same. -/
theorem log_of_lineFeed :
    let c : Conversion := ⟨.exampleFormat, ⟨"1\n2", "Sbanken"⟩, Ofx.defaultAccountType⟩
    let statement : Statement := ⟨"NOK", c.payer, []⟩
    (c.run [] .unlimited .unlimited).result = .ok statement ∧
      (c.run [] .unlimited .unlimited).log.written = Utf8.encode
        "Statement NOK account=1\n2 bank=Sbanken transactions=0 []\n".toList ∧
      '\n' ∈ statement.summary.toList ∧
      '\n' ∈ (Statement.summary ⟨"A\nB", .default, []⟩).toList := by
  intro c statement
  have hresult : (c.run [] .unlimited .unlimited).result = .ok statement := by
    rw [result_run_of_accepts (c.accepts_unlimited []),
      statement_nil (Format.rowReader_exampleFormat [])]
    rfl
  have hlog : (c.run [] (.ofRoom none false) .unlimited).log.written = summaryLine statement :=
    log_of_run hresult
  exact ⟨hresult, hlog.trans (by decide), by decide, by decide⟩

end Conversion

end BankStatement
