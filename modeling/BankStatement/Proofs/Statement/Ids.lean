import BankStatement.Proofs.Statement.Dates
import BankStatement.Proofs.Text.Utf8

/-!
# Ids of transactions

The id of a transaction is made of the first eight bytes of its date text, a dash and its number in
the document.  For most dates these bytes are the day, but they need not be: the text of a year that
has not four digits begins with a sign and is longer, so that two transactions of different days may
have the same eight bytes, and a dash may be among them.

## Strategy

* A date text is ASCII and has at least fourteen characters, whatever the year is, so that it can be
  cut after eight bytes (`front?_dateText`).
* The cut always gives as many characters, hence the number begins at the same place in all ids, and
  ids that are equal have equal numbers (`number_eq_of_transactionId_eq`).  That dates repeat, that
  they are missing or that they contain dashes does not matter.
* The numbers of a document are a range, in which none repeats.

The main statement is `Ofx.nodup_ids`.
-/

namespace BankStatement.Ofx

/-! ## The parts of an id -/

theorem length_take_dateText (date : Option Moment) :
    ((dateText date).toList.take 8).length = 8 := by
  have hlength := (shown date).le_length_digitsText
  rw [toList_dateText]
  exact List.length_take_of_le (by omega)

/-- A date text can be cut after eight bytes. -/
theorem front?_dateText (date : Option Moment) :
    Utf8.front? 8 (dateText date).toList = some ((dateText date).toList.take 8) := by
  have hlength := (shown date).le_length_digitsText
  rw [toList_dateText]
  exact Utf8.front?_of_ascii (shown date).ascii_digitsText (by omega)

theorem toString_injective {m n : Nat} (h : toString m = toString n) : m = n := by
  have hdigits : Nat.toDigits 10 m = Nat.toDigits 10 n := by
    rw [← Nat.toList_repr, ← Nat.toList_repr]
    exact congrArg String.toList h
  calc m = Nat.ofDigitChars 10 (Nat.toDigits 10 m) 0 := Nat.ofDigitChars_ten_toDigits.symm
    _ = Nat.ofDigitChars 10 (Nat.toDigits 10 n) 0 := by rw [hdigits]
    _ = n := Nat.ofDigitChars_ten_toDigits

/-- Transactions with the same id have the same number. -/
theorem number_eq_of_transactionId_eq {first second : Transaction} {m n : Nat}
    (h : transactionId first m = transactionId second n) : m = n := by
  have hchars := congrArg String.toList h
  simp only [transactionId, String.toList_append, String.toList_ofList] at hchars
  have hlength : ((dateText first.posted).toList.take 8 ++ "-".toList).length =
      ((dateText second.posted).toList.take 8 ++ "-".toList).length := by
    rw [List.length_append, List.length_append, length_take_dateText, length_take_dateText]
  have hnumbers := (List.append_inj hchars hlength).2
  exact toString_injective (String.toList_inj.mp hnumbers)

/-! ## The ids of a document -/

/-- **Ids are unique.**  In the document of any statement, whether posting dates are missing or
repeated and whatever their years are:

* There are as many ids as transactions.  Each of them is the first eight bytes of the date text,
  which has as many and is not cut inside a character, a dash and the number of the transaction.
* No id occurs twice.

The ids are those of the lines of the document, which can be read off its text when the account type
has no markup. -/
theorem nodup_ids (accountType : String) (statement : Statement) :
    (valuesOf "FITID" (lines accountType statement)).length = statement.transactions.length ∧
    (∀ (index : Nat) (transaction : Transaction),
      statement.transactions[index]? = some transaction →
      ∃ start, Utf8.front? 8 (dateText transaction.posted).toList = some start ∧
        (valuesOf "FITID" (lines accountType statement))[index]? =
          some (String.ofList start ++ "-" ++ toString (index + 1))) ∧
    (valuesOf "FITID" (lines accountType statement)).Nodup ∧
    (PlainText accountType.toList →
      linesOf (render accountType statement) = lines accountType statement) := by
  rw [valuesOf_ids]
  refine ⟨?_, ?_, ?_, linesOf_render statement⟩
  · rw [List.length_map, List.length_zipIdx]
  · intro index transaction htransaction
    refine ⟨_, front?_dateText transaction.posted, ?_⟩
    rw [List.getElem?_map, List.getElem?_zipIdx, htransaction, Nat.add_comm index 1]
    rfl
  · have hnumbers : ((statement.transactions.zipIdx 1).map (·.2)).Nodup := by
      rw [List.zipIdx_map_snd]
      exact List.nodup_range'
    apply List.pairwise_map.mpr
    apply (List.pairwise_map.mp hnumbers).imp
    intro first second hdifferent hsame
    exact hdifferent (number_eq_of_transactionId_eq hsame)

/-- A statement with two days of one month in a year of five digits. -/
def farYear : Statement where
  currency := "SEK"
  payer := .default
  transactions :=
    [⟨.zero false, (Date.ofDay? 12024 1 5).map .ofDate, none, "rent"⟩,
     ⟨.zero false, (Date.ofDay? 12024 1 6).map .ofDate, none, "bread"⟩]

theorem take_digitsText_farYear {m : Moment} (hyear : m.date.year = 12024)
    (hmonth : m.date.month = 1) : m.digitsText.take 8 = "+1202401".toList := by
  have hyearText : Moment.yearText 12024 = "+12024".toList := by
    simp [Moment.yearText, Decimal.paddedDigits, Decimal.digits, Decimal.digitChar]
  have hmonthText : Moment.two 1 = "01".toList := by
    simp [Moment.two, Decimal.paddedDigits, Decimal.digits, Decimal.digitChar]
  rw [Moment.digitsText, hyear, hmonth, hyearText, hmonthText]
  rfl

/-- The first eight bytes do not reach the days. -/
theorem nodup_ids_farYear :
    (valuesOf "FITID" (lines "CHECKING" farYear))[0]? = some "+1202401-1" ∧
    (valuesOf "FITID" (lines "CHECKING" farYear))[1]? = some "+1202401-2" ∧
    (valuesOf "FITID" (lines "CHECKING" farYear)).Nodup ∧
    linesOf (render "CHECKING" farYear) = lines "CHECKING" farYear := by
  obtain ⟨-, hids, hnodup, hlines⟩ := nodup_ids "CHECKING" farYear
  obtain ⟨start, hstart, hfirst⟩ := hids 0 _ rfl
  obtain ⟨start', hstart', hsecond⟩ := hids 1 _ rfl
  rw [front?_dateText, toList_dateText, take_digitsText_farYear rfl rfl] at hstart hstart'
  obtain rfl : "+1202401".toList = start := Option.some.inj hstart
  obtain rfl : "+1202401".toList = start' := Option.some.inj hstart'
  exact ⟨hfirst, hsecond, hnodup, hlines (by decide)⟩

end BankStatement.Ofx
