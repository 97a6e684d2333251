import BankStatement.Proofs.Statement.Kinds

/-!
# Amounts in summaries

The summary of a transaction shows its amount with two places, as the statement does, but it shows
the amount as it is, where the statement rounds it to cents before (`Ofx.amount`).  The two texts
differ in three cases.

* A negative amount that is rounded to no cents is written as `0.00`.  Its summary has `-0.00`, next
  to the kind `CREDIT` (`LosesSign`).
* A hundred times the amount is half a cent more than the cents that the summary shows
  (`IsHalfAbove`).  In the statement this half goes up.  In the summary it does not, because the
  product was rounded and the amount itself is less than that, or because the half goes to the even
  neighbour.
* The amount is so great that a hundred times it is not finite, or that its cents are lost in the
  rounding.

Below `2 ^ 43` there is nothing but the first two (`shownAmount_eq_iff`).
-/

namespace BankStatement

open Binary64

/-! ## The amount in a summary -/

/-- The amount in the summary of a transaction: what stands between its first two blanks. -/
def shownAmount (summary : String) : String :=
  String.ofList (((summary.toList.dropWhile (· ≠ ' ')).drop 1).takeWhile (· ≠ ' '))

theorem Decimal.blank_not_mem_fixed (places : Nat) (x : Binary64) : ' ' ∉ fixed places x := by
  have hdigits : ∀ n, ' ' ∉ withPlaces places n := by
    intro n hmem
    have hblank : ¬ isDigit ' ' = true := by decide
    rcases List.mem_append.mp hmem with hmem | hmem
    · exact hblank (isDigit_of_mem_digits ' ' hmem)
    · rcases List.mem_cons.mp hmem with hpoint | hmem
      · cases hpoint
      · exact hblank (isDigit_of_mem_paddedDigits ' ' hmem)
  unfold fixed
  cases x.isNaN <;> cases x.isInfinite <;> cases x.negative <;> simp [hdigits]

/-- The summary shows the amount as it is. -/
theorem shownAmount_summary (transaction : Transaction) :
    shownAmount transaction.summary = amountText transaction.amount := by
  have hkind : ' ' ∉ '\x7b' :: transaction.kind.name.toList := by
    cases transaction.kind <;> decide
  have hamount := Decimal.blank_not_mem_fixed 2 transaction.amount
  obtain ⟨after, hsummary⟩ : ∃ after, transaction.summary.toList =
      '\x7b' :: transaction.kind.name.toList ++
        ' ' :: (Decimal.fixed 2 transaction.amount ++ ' ' :: after) := by
    refine ⟨"posted=".toList ++ ((Transaction.summaryDate transaction.posted).toList ++
      (" user=".toList ++ ((Transaction.summaryDate transaction.user).toList ++
        (" memo=".toList ++ (Text.quoted transaction.memo.toList ++ "\x7d".toList))))), ?_⟩
    simp [Transaction.summary, amountText]
  obtain ⟨-, hdrop⟩ := Ofx.span_ne_append hkind (Decimal.fixed 2 transaction.amount ++ ' ' :: after)
  obtain ⟨htake, -⟩ := Ofx.span_ne_append hamount after
  unfold shownAmount amountText
  rw [hsummary, hdrop, List.drop_one, List.tail_cons, htake]

/-! ## Halves -/

/-- A negative amount that is rounded to no cents. -/
def LosesSign (x : Binary64) : Prop :=
  x.negative = true ∧ centCount x = 0

instance (x : Binary64) : Decidable (LosesSign x) :=
  inferInstanceAs (Decidable (_ ∧ _))

/-- A hundred times the amount is half a cent more than the cents that its text shows. -/
def IsHalfAbove (x : Binary64) : Prop :=
  2 * units (x * .ofInt 100).magnitude = (2 * printedCents x + 1) * unitsPerOne

instance (x : Binary64) : Decidable (IsHalfAbove x) :=
  inferInstanceAs (Decidable (_ = _))

variable {x : Binary64}

/-- A whole number of at most 52 bits and a half is a value. -/
theorem exists_units_half {count : Nat} (h : count < 2 ^ 52) :
    ∃ magnitude, 2 * units magnitude = 2 * (count * unitsPerOne) + unitsPerOne := by
  obtain ⟨n, hn⟩ : ∃ n, n + 1 = 1074 := ⟨1073, rfl⟩
  obtain ⟨magnitude, hunits⟩ := exists_units_eq (by omega : 2 * count + 1 < 2 ^ 53) n
  refine ⟨magnitude, ?_⟩
  rw [hunits, unitsPerOne_eq hn, Nat.pow_succ, Nat.mul_comm (2 ^ n), Nat.add_mul, Nat.one_mul,
    Nat.mul_add, Nat.mul_left_comm count, Nat.mul_assoc]

theorem printedCents_error (x : Binary64) :
    2 * (printedCents x * unitsPerOne) ≤ 2 * (100 * units x.magnitude) + unitsPerOne ∧
      2 * (100 * units x.magnitude) ≤ 2 * (printedCents x * unitsPerOne) + unitsPerOne := by
  have herror := roundHalfEven_error (units x.magnitude * 100) unitsPerOne_pos
  rw [Nat.mul_comm (units x.magnitude)] at herror
  unfold printedCents
  rwa [Nat.mul_comm (units x.magnitude)]

/-- A hundred times the amount is rounded before its cents are counted, but not past a half: the
halves are values. -/
theorem mul_hundred_error (hx : x.isFinite = true)
    (hless : units x.magnitude < 2 ^ 43 * unitsPerOne) :
    2 * (printedCents x * unitsPerOne) ≤ 2 * units (x * .ofInt 100).magnitude + unitsPerOne ∧
      2 * units (x * .ofInt 100).magnitude ≤ 2 * (printedCents x * unitsPerOne) + unitsPerOne := by
  have hpositive := unitsPerOne_pos
  have hproduct := isFinite_mul_hundred hx hless
  rw [mul_hundred hx, isFinite_ofMagnitude] at hproduct
  rw [mul_hundred hx, magnitude_ofMagnitude_of_lt _ hproduct]
  obtain ⟨habove, hbelow⟩ := printedCents_error x
  have hsize : printedCents x * unitsPerOne < 2 ^ 50 * unitsPerOne := by omega
  have hfew := Nat.lt_of_mul_lt_mul_right hsize
  generalize printedCents x = count at habove hbelow hfew ⊢
  constructor
  · cases count with
    | zero => omega
    | succ less =>
        obtain ⟨lower, hlower⟩ := exists_units_half (by omega : less < 2 ^ 52)
        rw [Nat.add_mul less 1 unitsPerOne, Nat.one_mul] at habove hbelow ⊢
        have hside := le_units_nearest (by omega : units lower ≤ 100 * units x.magnitude)
        omega
  · obtain ⟨upper, hupper⟩ := exists_units_half (by omega : count < 2 ^ 52)
    have hside := units_nearest_le (by omega : 100 * units x.magnitude ≤ units upper)
    omega

/-- The cents that are written are those that are shown, but for a half, which goes up. -/
theorem centCount_eq (hx : x.isFinite = true)
    (hless : units x.magnitude < 2 ^ 43 * unitsPerOne) :
    centCount x = if IsHalfAbove x then printedCents x + 1 else printedCents x := by
  have hpositive := unitsPerOne_pos
  obtain ⟨hlow, hhigh⟩ := mul_hundred_error hx hless
  unfold centCount
  by_cases h : IsHalfAbove x
  · rw [if_pos h]
    unfold IsHalfAbove at h
    rw [Nat.add_mul, Nat.one_mul, Nat.mul_assoc] at h
    have hnext : (printedCents x + 1) * unitsPerOne =
        printedCents x * unitsPerOne + unitsPerOne := by rw [Nat.add_mul, Nat.one_mul]
    exact roundHalfUp_eq (by omega) (by omega)
  · rw [if_neg h]
    unfold IsHalfAbove at h
    rw [Nat.add_mul, Nat.one_mul, Nat.mul_assoc] at h
    exact roundHalfUp_eq hlow (by omega)

/-! ## Equal texts -/

/-- Texts of finite values are equal when signs and cents are. -/
theorem Decimal.fixed_eq_iff {x y : Binary64} (hx : x.isFinite = true) (hy : y.isFinite = true) :
    fixed 2 x = fixed 2 y ↔ x.negative = y.negative ∧ printedCents x = printedCents y := by
  constructor
  · intro htext
    have hsign : x.negative = true ↔ y.negative = true := by
      have hhead : (fixed 2 x).head? = some '-' ↔ (fixed 2 y).head? = some '-' := by rw [htext]
      rw [head?_fixed, head?_fixed] at hhead
      simpa [isNaN_of_isFinite hx, isNaN_of_isFinite hy] using hhead
    have hnegative : x.negative = y.negative := Bool.eq_iff_iff.mpr hsign
    refine ⟨hnegative, ?_⟩
    have hread := hundredths?_fixed hx
    rw [htext, hundredths?_fixed hy, hnegative, Option.some_inj] at hread
    split at hread <;> omega
  · rintro ⟨hnegative, hcents⟩
    rw [fixed_of_isFinite hx, fixed_of_isFinite hy, hnegative, hcents]

theorem amountText_eq_amount_iff (hx : x.isFinite = true) :
    amountText x = Ofx.amount x ↔ (x * .ofInt 100).isFinite = true ∧ ¬ LosesSign x ∧
      printedCents (roundCents x) = printedCents x := by
  by_cases h : (x * .ofInt 100).isFinite = true
  · have hsign : x.negative = (roundCents x).negative ↔ ¬ LosesSign x := by
      rw [negative_roundCents h]
      unfold LosesSign
      cases x.negative <;> simp
    rw [Ofx.amount, amountText, amountText, String.ofList_inj,
      Decimal.fixed_eq_iff hx (isFinite_roundCents h), hsign]
    simp [h, eq_comm]
  · -- the text of the amount has two places, and what is written has not
    refine iff_of_false (fun htext => h ?_) (fun hall => h hall.1)
    rw [← Ofx.hasTwoPlaces_amount, ← htext, ← Decimal.isSome_hundredths?, amountText,
      String.toList_ofList, Decimal.hundredths?_fixed hx]
    rfl

/-- Below `2 ^ 43` the texts differ for the two reasons only. -/
theorem amountText_eq_amount_iff_of_lt (hx : x.isFinite = true)
    (hless : units x.magnitude < 2 ^ 43 * unitsPerOne) :
    amountText x = Ofx.amount x ↔ ¬ LosesSign x ∧ ¬ IsHalfAbove x := by
  have hcents : printedCents (roundCents x) = printedCents x ↔ ¬ IsHalfAbove x := by
    rw [printedCents_roundCents hx hless, centCount_eq hx hless]
    by_cases h : IsHalfAbove x <;> simp [h]
  rw [amountText_eq_amount_iff hx, hcents]
  simp [isFinite_mul_hundred hx hless]

/-! ## Credits with a minus -/

/-- A finite amount that is infinite a hundredfold. -/
theorem mul_hundred_of_overflow (hx : x.isFinite = true) (h : (x * .ofInt 100).isFinite = false) :
    x * .ofInt 100 = infinity x.negative := by
  rw [mul_hundred hx] at h ⊢
  rw [← Bool.not_eq_true, isFinite_ofMagnitude, Nat.not_lt] at h
  rw [← ofMagnitude_min, Nat.min_eq_right h]
  rfl

/-- Such an amount is still infinite when it is rounded to cents, and it has cents. -/
theorem roundCents_of_overflow (hx : x.isFinite = true) (h : (x * .ofInt 100).isFinite = false) :
    roundCents x = infinity x.negative ∧ centCount x ≠ 0 := by
  have hinfinite : ∀ negative, infinity negative / .ofInt 100 = infinity negative ∧
      (infinity negative).isZero = false ∧
      roundHalfUp (units (infinity negative).magnitude) unitsPerOne ≠ 0 := by decide +kernel
  obtain ⟨hquotient, hzero, hcount⟩ := hinfinite x.negative
  have hproduct := mul_hundred_of_overflow hx h
  have hround := round_of_not_isFinite h
  rw [hproduct] at hround
  unfold roundCents centCount
  simp only [hproduct, hround, hquotient, hzero, Bool.false_eq_true, if_false]
  exact ⟨trivial, hcount⟩

/-- Rounded to cents, an amount is below zero when it is negative and has cents. -/
theorem belowZero_roundCents_of_isFinite (hx : x.isFinite = true) :
    (roundCents x).belowZero = (x.negative && decide (centCount x ≠ 0)) := by
  rw [Bool.eq_iff_iff, belowZero_roundCents]
  by_cases h : (x * .ofInt 100).isFinite = true
  · rw [negative_roundCents h, isNaN_of_isFinite (isFinite_roundCents h)]
    simp
  · rw [Bool.not_eq_true] at h
    obtain ⟨hvalue, hcount⟩ := roundCents_of_overflow hx h
    have hinfinite : ∀ negative, (infinity negative).negative = negative ∧
        (infinity negative).isNaN = false := by decide
    rw [hvalue, (hinfinite x.negative).1, (hinfinite x.negative).2]
    simp [hcount]

theorem credit_with_minus_iff (hx : x.isFinite = true) :
    TransactionKind.ofAmount x = .credit ∧ (amountText x).toList.head? = some '-' ↔
      LosesSign x := by
  rw [amountText, String.toList_ofList, Decimal.head?_fixed, isNaN_of_isFinite hx]
  unfold TransactionKind.ofAmount LosesSign
  rw [belowZero_roundCents_of_isFinite hx]
  cases x.negative <;> by_cases h : centCount x = 0 <;> simp [h]

/-! ## Shown and written -/

/-- **When the summary shows the amount that is written.**  Let the amount of a transaction be
finite.  The text in its summary is the text that is written just when a hundred times the amount is
finite, no sign is lost, and the value that is written has the cents that the amount is shown with.
Below `2 ^ 43` this says that no sign is lost and that a hundred times the amount is not half a cent
more than the cents that are shown.  A minus next to `CREDIT` is shown just for the amounts that
lose their sign. -/
theorem shownAmount_eq_iff {transaction : Transaction}
    (hfinite : transaction.amount.isFinite = true) (number : Nat) :
    ∃ shown written,
      shownAmount transaction.summary = shown ∧
        Ofx.valuesOf "TRNAMT" (Ofx.transactionLines transaction number) = [written] ∧
        (shown = written ↔
          (transaction.amount * .ofInt 100).isFinite = true ∧ ¬ LosesSign transaction.amount ∧
            printedCents (roundCents transaction.amount) = printedCents transaction.amount) ∧
        (units transaction.amount.magnitude < 2 ^ 43 * unitsPerOne →
          (shown = written ↔
            ¬ LosesSign transaction.amount ∧ ¬ IsHalfAbove transaction.amount)) ∧
        (transaction.kind = .credit ∧ shown.toList.head? = some '-' ↔
          LosesSign transaction.amount) :=
  ⟨amountText transaction.amount, Ofx.amount transaction.amount, shownAmount_summary transaction,
    Ofx.valuesOf_amount transaction number, amountText_eq_amount_iff hfinite,
    amountText_eq_amount_iff_of_lt hfinite, credit_with_minus_iff hfinite⟩

/-- An amount of -149.90 is shown as it is written. -/
theorem shownAmount_eq_iff_purchase :
    let transaction : Transaction := ⟨⟨0xc062bccccccccccd⟩, none, none, "Coffee beans"⟩
    transaction.amount.isFinite = true ∧
      units transaction.amount.magnitude < 2 ^ 43 * unitsPerOne ∧
      shownAmount transaction.summary = "-149.90" ∧
      Ofx.valuesOf "TRNAMT" (Ofx.transactionLines transaction 1) = ["-149.90"] := by
  intro transaction
  have hfinite : transaction.amount.isFinite = true := by decide
  have hless : units transaction.amount.magnitude < 2 ^ 43 * unitsPerOne := by decide +kernel
  have hneither : ¬ LosesSign transaction.amount ∧ ¬ IsHalfAbove transaction.amount := by
    decide +kernel
  have htext : shownAmount transaction.summary = "-149.90" := by decide +kernel
  obtain ⟨shown, written, hshown, hwritten, -, hsmall, -⟩ := shownAmount_eq_iff hfinite 1
  have hsame : shown = written := (hsmall hless).mpr hneither
  exact ⟨hfinite, hless, htext, by rw [hwritten, ← hsame, ← hshown, htext]⟩

/-- An amount of -0.001 is written as a credit of 0.00 and shown with a minus.  So is the negative
zero, which an empty column with a negative factor gives.  Of 0.125 and of 1.115 the summary shows a
cent less than what is written. -/
theorem shownAmount_ne :
    let transaction : Binary64 → Transaction := fun amount => ⟨amount, none, none, ""⟩
    let shown := fun amount => shownAmount (transaction amount).summary
    let written := fun amount => Ofx.valuesOf "TRNAMT" (Ofx.transactionLines (transaction amount) 1)
    ((transaction ⟨0xbf50624dd2f1a9fc⟩).kind = .credit ∧ shown ⟨0xbf50624dd2f1a9fc⟩ = "-0.00" ∧
        written ⟨0xbf50624dd2f1a9fc⟩ = ["0.00"]) ∧
      ((transaction (zero true)).kind = .credit ∧ shown (zero true) = "-0.00" ∧
        written (zero true) = ["0.00"]) ∧
      (shown ⟨0x3fc0000000000000⟩ = "0.12" ∧ written ⟨0x3fc0000000000000⟩ = ["0.13"]) ∧
      (shown ⟨0x3ff1d70a3d70a3d7⟩ = "1.11" ∧ written ⟨0x3ff1d70a3d70a3d7⟩ = ["1.12"]) := by
  decide +kernel

end BankStatement
