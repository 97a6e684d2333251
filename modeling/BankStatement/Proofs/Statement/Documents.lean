import BankStatement.Proofs.Calendar.DocumentDates
import BankStatement.Proofs.Json.Records
import BankStatement.Proofs.Json.Scanning
import BankStatement.Statement.Document

/-!
# Statements in documents

The text of a statement is read as a statement with the same currency, payer and transactions in
order, with any text in them, any dates or none, and any finite amounts.  Documents have no other
numbers: an amount that is not finite is written as `null`, which is no amount.

The dates are read as they are shown.  So the statement that is read is the one that was written,
unless a leap second in it does not end its minute (`Statement.reads_toText`).  The readers of the
records compose as the records do, and each lemma says what is read from the value of its part.
-/

namespace BankStatement

open Json (Reads reads_textNamed reads_optional reads_optional_null reads_real reads_list)

/-! ## Dates -/

namespace Moment

theorem reads_ofTree (m : Moment) :
    Reads ofTree (.string (String.ofList m.documentText)) m.shown := by
  intro tree htree
  rw [ofTree, reads_textNamed _ _ tree htree]
  simp only [String.toList_ofList, ofDocumentText_documentText]

theorem reads_toValue (date : Option Moment) :
    Reads (Json.optional ofTree) (toValue date) (date.map shown) := by
  cases date with
  | none => exact reads_optional_null ofTree
  | some m => exact reads_optional (by simp [toValue]) (reads_ofTree m)

theorem fits_toValue (date : Option Moment) : (toValue date).Fits := by
  cases date <;> trivial

end Moment

/-! ## Transactions -/

namespace Transaction

/-- The transaction with the dates that are shown. -/
def shown (transaction : Transaction) : Transaction :=
  { transaction with posted := transaction.posted.map .shown, user := transaction.user.map .shown }

/-- Whether all leap seconds in the dates of a transaction end their minutes. -/
def LeapsEndMinutes (transaction : Transaction) : Prop :=
  ∀ date, transaction.posted = some date ∨ transaction.user = some date →
    date.time.LeapEndsMinute

variable {transaction : Transaction}

theorem shown_eq_iff : transaction.shown = transaction ↔ transaction.LeapsEndMinutes := by
  have hdate : ∀ date : Option Moment, date.map Moment.shown = date ↔
      ∀ moment, date = some moment → moment.time.LeapEndsMinute := by
    intro date
    cases date with
    | none => simp
    | some moment => simp [Moment.shown_eq_iff]
  obtain ⟨amount, posted, user, memo⟩ := transaction
  simp only [shown, mk.injEq, true_and, and_true, hdate, LeapsEndMinutes, or_imp, forall_and]

theorem reads_toValue (h : transaction.amount.isFinite = true) {depth : Nat} (hdepth : 0 < depth) :
    Reads (shape.read depth) transaction.toValue transaction.shown := by
  refine Json.RecordShape.ReadsMembers.reads
    (?_ : shape.ReadsMembers _ _ _ (_, ["memo", "user_date", "posted_date", "amount"])) hdepth rfl
  refine .cons rfl rfl (Json.Slot.reads_of (reads_real h) _) ?_
  refine .cons rfl rfl (Json.Slot.reads_of (Moment.reads_toValue transaction.posted) _) ?_
  refine .cons rfl rfl (Json.Slot.reads_of (Moment.reads_toValue transaction.user) _) ?_
  refine .cons rfl rfl (Json.Slot.reads_of (reads_textNamed _ transaction.memo) _) ?_
  exact .nil _ _

theorem fits_toValue (h : transaction.amount.isFinite = true) : transaction.toValue.Fits := by
  have hamount : (Json.Value.ofBinary64 transaction.amount).Fits := by
    rw [Json.Value.ofBinary64_of_isFinite h]
    exact h
  exact ⟨hamount, Moment.fits_toValue _, Moment.fits_toValue _, trivial, trivial⟩

end Transaction

/-! ## Statements -/

theorem Payer.reads_toValue (payer : Payer) {depth : Nat} (hdepth : 0 < depth) :
    Reads (shape.read depth) payer.toValue payer := by
  refine Json.RecordShape.ReadsMembers.reads
    (?_ : shape.ReadsMembers _ _ _ (_, ["bank", "account"])) hdepth rfl
  refine .cons rfl rfl (Json.Slot.reads_of (reads_textNamed _ payer.account) _) ?_
  refine .cons rfl rfl (Json.Slot.reads_of (reads_textNamed _ payer.bank) _) ?_
  exact .nil _ _

namespace Statement

variable {statement : Statement}

/-- Whether all amounts of a statement are numbers that documents have. -/
def FiniteAmounts (statement : Statement) : Prop :=
  ∀ transaction ∈ statement.transactions, transaction.amount.isFinite = true

/-- The statement with the dates that are shown. -/
def shown (statement : Statement) : Statement :=
  { statement with transactions := statement.transactions.map .shown }

/-- Whether all leap seconds in the dates of a statement end their minutes. -/
def LeapsEndMinutes (statement : Statement) : Prop :=
  ∀ transaction ∈ statement.transactions, transaction.LeapsEndMinutes

theorem shown_eq_iff : statement.shown = statement ↔ statement.LeapsEndMinutes := by
  obtain ⟨currency, payer, transactions⟩ := statement
  have hsame : transactions.map Transaction.shown = transactions ↔
      ∀ transaction ∈ transactions, transaction.shown = transaction := by
    have hall := List.map_inj_left (f := Transaction.shown) (g := id) (l := transactions)
    rwa [List.map_id] at hall
  simp only [shown, mk.injEq, true_and, LeapsEndMinutes, hsame, Transaction.shown_eq_iff]

theorem reads_toValue (h : statement.FiniteAmounts) {depth : Nat} (hdepth : 2 < depth) :
    Reads ((shape (depth - 1)).read depth) statement.toValue statement.shown := by
  have hinner : 0 < depth - 1 := by omega
  have htransactions : List.Forall₂ (Reads (Transaction.shape.read (depth - 1 - 1)))
      (statement.transactions.map Transaction.toValue)
      (statement.transactions.map Transaction.shown) := by
    rw [List.forall₂_map_left_iff, List.forall₂_map_right_iff, List.forall₂_same]
    exact fun transaction hmem => Transaction.reads_toValue (h transaction hmem) (by omega)
  refine Json.RecordShape.ReadsMembers.reads
    (?_ : (shape (depth - 1)).ReadsMembers _ _ _ (_, ["transactions", "payer", "currency"]))
    (by omega) rfl
  refine .cons rfl rfl (Json.Slot.reads_of (reads_textNamed _ statement.currency) _) ?_
  refine .cons rfl rfl (Json.Slot.reads_of (statement.payer.reads_toValue hinner) _) ?_
  refine .cons rfl rfl (Json.Slot.reads_of (reads_list hinner htransactions) _) ?_
  exact .nil _ _

theorem fits_toValue (h : statement.FiniteAmounts) : statement.toValue.Fits := by
  have hitems : Json.Value.fitsItems (statement.transactions.map Transaction.toValue) := by
    rw [Json.Value.fitsItems_iff, List.forall_mem_map]
    exact fun transaction hmem => Transaction.fits_toValue (h transaction hmem)
  exact ⟨trivial, ⟨trivial, trivial, trivial⟩, hitems, trivial⟩

/-- The compact text of a statement with finite amounts is read as the statement that is shown. -/
theorem ofText_toText_shown (h : statement.FiniteAmounts) :
    ofText statement.toText = .ok statement.shown := by
  obtain ⟨tree, hdocument, hholds⟩ :=
    Json.Document.ofText_written (Json.Value.written_compact (fits_toValue h))
  have hread := reads_toValue h (show 2 < Json.nestingLimit by decide) tree hholds
  unfold ofText toText Json.Value.toText
  rw [String.toList_ofList, hdocument, Json.Document.read, hread]

/-- **Statements are read back.**  The compact text of a statement with finite amounts is read as a
statement, whatever its texts and its dates are.  Only a leap second that does not end its minute is
read as another moment, namely the one after it that looks like it: so the text is read as the very
statement exactly when there is no such leap second. -/
theorem reads_toText (h : statement.FiniteAmounts) :
    ofText statement.toText = .ok statement.shown ∧
      (ofText statement.toText = .ok statement ↔ statement.LeapsEndMinutes) := by
  have hread := ofText_toText_shown h
  refine ⟨hread, ?_⟩
  rw [hread, Except.ok.injEq, shown_eq_iff]

/-- A quarter of a second into a leap second, in the year before year 0. -/
def ancientLeapSecond : Moment where
  date := (Date.ofDay? (-1) 12 31).get (by decide)
  time := (TimeOfDay.ofParts? 23 59 59 1250000000).get (by decide)

/-- A payment then, of which the memo has a quote and a new line. -/
def ancientStatement : Statement where
  currency := "SEK"
  payer := .default
  transactions := [⟨.ofInt (-12), some ancientLeapSecond, none, "\"Paid\"\n☃"⟩]

theorem reads_toText_ancient :
    ancientLeapSecond.documentText = "-0001-12-31T23:59:60.250".toList ∧
      ancientStatement.FiniteAmounts ∧ ofText ancientStatement.toText = .ok ancientStatement := by
  have hfinite : ancientStatement.FiniteAmounts := by
    intro transaction hmem
    obtain rfl := List.mem_singleton.mp hmem
    exact Binary64.isFinite_ofInt (by decide) (by decide)
  have hleaps : ancientStatement.LeapsEndMinutes := by
    intro transaction hmem date hdate
    obtain rfl := List.mem_singleton.mp hmem
    rcases hdate with hdate | hdate <;> cases hdate
    exact fun _ => rfl
  exact ⟨by decide +kernel, hfinite, (reads_toText hfinite).2.mpr hleaps⟩

/-- A payment of nothing at some date. -/
def paymentOn (date : Moment) : Statement where
  currency := "SEK"
  payer := .default
  transactions := [⟨.zero false, some date, none, "A"⟩]

/-- Half a second into a leap second after the first second of an hour is read as the first half of
the second after it. -/
theorem ofText_toText_noon :
    let time : TimeOfDay := ⟨12, 0, 0, 1500000000, by decide, by decide, by decide, by decide⟩
    let date : Moment := ⟨(Date.ofDay? 2024 1 1).get (by decide), time⟩
    date.documentText = "2024-01-01T12:00:01.500".toList ∧ (paymentOn date).FiniteAmounts ∧
      (∃ read, ofText (paymentOn date).toText = .ok read ∧
        read.transactions.map (·.posted.map (·.time)) =
          [TimeOfDay.ofParts? 12 0 1 500000000]) ∧
      ofText (paymentOn date).toText ≠ .ok (paymentOn date) := by
  intro time date
  have hfinite : (paymentOn date).FiniteAmounts := by
    intro transaction hmem
    obtain rfl := List.mem_singleton.mp hmem
    rfl
  have hread := ofText_toText_shown hfinite
  refine ⟨by decide +kernel, hfinite, ⟨_, hread, by decide⟩, fun hsame => ?_⟩
  -- it would have to be a leap second at the end of its minute
  have hends := shown_eq_iff.mp (Except.ok.inj (hread.symm.trans hsame))
  have hlast : (0 : Nat) = 59 := hends _ (List.mem_singleton_self _) date (.inl rfl) (by decide)
  cases hlast

end Statement

end BankStatement
