import BankStatement.Proofs.Statement.Cents
import BankStatement.Proofs.Statement.Values

/-!
# The balance and the transactions

Every amount is written rounded to cents, while the balance is the total of the amounts as they are,
rounded once.  So the balance need not be the sum of the amounts that are written
(`Ofx.balance_ne_sum`); how far it may be from that sum, and when it is that sum, is
`Ofx.balance_eq_sum`.

## Strategy

* An amount below `2 ^ 31` is read back as a whole number of cents, `cents`: none of the roundings
  between the product with a hundred and the text moves that number
  (`Moderate.hundredths?_amount`).
* Its cents are off from the amount by half a cent and the error of one product
  (`Moderate.cents_error`), and by next to nothing when rounding to cents leaves it unchanged
  (`Moderate.whole_error`).  Over a list these differences are added up by `roundedOff`.
* The total is below `2 ^ 31` too, since no sum on the way is greater than twice the absolute
  values, and it is off from the exact sum by the errors of the additions (`total_error_of_lt`,
  `total_error_of_few`).
* The balance and the sum of the cents are whole numbers, so a bound on their difference
  (`cents_total_error`) may be rounded down (`natAbs_cents_total_le`), and one below a cent makes
  them equal (`cents_total_eq`).
-/

namespace BankStatement

open Binary64

/-! ## Whole cents -/

/-- The cents of an amount. -/
def cents (x : Binary64) : Int :=
  if x.negative then -(centCount x : Int) else (centCount x : Int)

/-- What is rounded off an amount: how far its cents are from a hundred times it, in units. -/
def centsOff (x : Binary64) : Nat :=
  (cents x * unitsPerOne - 100 * x.signedUnits).natAbs

/-- An amount below `2 ^ 31`. -/
def Moderate (x : Binary64) : Prop :=
  x.isFinite = true ∧ units x.magnitude < 2 ^ 31 * unitsPerOne

variable {x : Binary64}

/-- Moderate amounts are far below those that are printed with other cents. -/
theorem Moderate.units_lt (h : Moderate x) : units x.magnitude < 2 ^ 43 * unitsPerOne := by
  have hless := h.2
  omega

theorem Moderate.isFinite_mul_hundred (h : Moderate x) : (x * .ofInt 100).isFinite = true :=
  BankStatement.isFinite_mul_hundred h.1 h.units_lt

/-- The sign makes no difference to what is rounded off. -/
theorem centsOff_eq (x : Binary64) :
    centsOff x =
      (((centCount x * unitsPerOne : Nat) : Int) -
        ((100 * units x.magnitude : Nat) : Int)).natAbs := by
  unfold centsOff cents signedUnits
  cases x.negative with
  | false =>
      simp only [Bool.false_eq_true, if_false]
      omega
  | true =>
      simp only [if_true, Int.neg_mul]
      omega

theorem Moderate.cents_error (h : Moderate x) :
    2 ^ 54 * centsOff x ≤ 2 ^ 53 * unitsPerOne + 200 * units x.magnitude := by
  have herror := centCount_error h.isFinite_mul_hundred
  rw [centsOff_eq]
  omega

/-! ## What is read back -/

/-- A moderate amount is read back as its cents. -/
theorem Moderate.hundredths?_amount (h : Moderate x) :
    Decimal.hundredths? (Ofx.amount x).toList = some (cents x) := by
  have hproduct := h.isFinite_mul_hundred
  rw [Ofx.amount, amountText, String.toList_ofList,
    Decimal.hundredths?_fixed (isFinite_roundCents hproduct), negative_roundCents hproduct,
    printedCents_roundCents h.1 h.units_lt]
  unfold cents
  -- an amount without cents has no sign
  by_cases hnone : centCount x = 0
  · simp [hnone]
  · simp [hnone]

/-! ## Sums of cents -/

/-- The cents of amounts, added up. -/
def centsSum : List Binary64 → Int
  | [] => 0
  | first :: rest => cents first + centsSum rest

/-- What is rounded off amounts, added up. -/
def roundedOff : List Binary64 → Nat
  | [] => 0
  | first :: rest => centsOff first + roundedOff rest

/-- The cents differ from the exact sum by what was rounded off. -/
theorem centsSum_error (amounts : List Binary64) :
    (centsSum amounts * unitsPerOne - 100 * exactUnits amounts).natAbs ≤ roundedOff amounts := by
  induction amounts with
  | nil =>
      rw [centsSum, exactUnits, Int.zero_mul, Int.mul_zero]
      exact Nat.zero_le _
  | cons first rest ih =>
      have hfirst : centsOff first =
          (cents first * unitsPerOne - 100 * first.signedUnits).natAbs := rfl
      rw [centsSum, exactUnits, roundedOff, Int.add_mul]
      omega

/-- Half a cent is rounded off each amount at most, but for errors that the size of the amounts
bounds. -/
theorem roundedOff_le {amounts : List Binary64} (h : ∀ amount ∈ amounts, Moderate amount) :
    2 ^ 54 * roundedOff amounts ≤
      amounts.length * (2 ^ 53 * unitsPerOne) + 200 * absoluteUnits amounts := by
  induction amounts with
  | nil =>
      rw [roundedOff, Nat.mul_zero]
      exact Nat.zero_le _
  | cons first rest ih =>
      obtain ⟨hfirst, hrest⟩ := List.forall_mem_cons.mp h
      have herror := hfirst.cents_error
      have hlater := ih hrest
      rw [roundedOff, absoluteUnits, List.length_cons, Nat.add_mul, Nat.one_mul]
      omega

/-- An amount that rounding to cents leaves unchanged. -/
def IsWhole (x : Binary64) : Prop :=
  (roundCents x).signedUnits = x.signedUnits

/-- Next to nothing is rounded off whole cents. -/
theorem Moderate.whole_error (h : Moderate x) (hwhole : IsWhole x) :
    2 ^ 53 * centsOff x ≤ 600 * units x.magnitude := by
  have hsame : units (centMagnitude x) = units x.magnitude := by
    rw [← units_roundCents h.isFinite_mul_hundred, ← natAbs_signedUnits, hwhole, natAbs_signedUnits]
  have herror := centMagnitude_error x
  rw [hsame] at herror
  rw [centsOff_eq]
  omega

theorem roundedOff_whole {amounts : List Binary64} (h : ∀ amount ∈ amounts, Moderate amount)
    (hwhole : ∀ amount ∈ amounts, IsWhole amount) :
    2 ^ 53 * roundedOff amounts ≤ 600 * absoluteUnits amounts := by
  induction amounts with
  | nil =>
      rw [roundedOff, Nat.mul_zero]
      exact Nat.zero_le _
  | cons first rest ih =>
      obtain ⟨hfirst, hrest⟩ := List.forall_mem_cons.mp h
      obtain ⟨hfirstWhole, hrestWhole⟩ := List.forall_mem_cons.mp hwhole
      have herror := hfirst.whole_error hfirstWhole
      have hlater := ih hrest hrestWhole
      rw [roundedOff, absoluteUnits]
      omega

/-! ## The errors of the total -/

variable {amounts : List Binary64}

/-- The errors of all additions together, however many amounts there are. -/
theorem total_error_of_lt (hfinite : ∀ amount ∈ amounts, amount.isFinite = true)
    (hsize : absoluteUnits amounts < 10 ^ 9 * unitsPerOne) :
    2 ^ 23 * ((total amounts).signedUnits - exactUnits amounts).natAbs ≤
      amounts.length * unitsPerOne := by
  refine total_error (k := 31) (by decide) hfinite fun before amount hbefore => ?_
  have hmembers : ∀ earlier ∈ before, earlier.isFinite = true := fun earlier h =>
    hfinite earlier (hbefore.subset (List.mem_append_left _ h))
  have hle := absoluteUnits_le_of_prefix hbefore
  rw [absoluteUnits_append, absoluteUnits_singleton] at hle
  have hunits := natAbs_signedUnits amount
  -- no sum on the way is greater than twice the bound
  have hbelow : 2 * absoluteUnits before < 2 ^ 31 * unitsPerOne := by omega
  obtain ⟨hsum, hmost⟩ := natAbs_total_le (by decide) hmembers hbelow
  exact ⟨hsum, by omega⟩

/-- They are half as great when the amounts are not too many: no sum on the way is then much greater
than the bound. -/
theorem total_error_of_few (hfinite : ∀ amount ∈ amounts, amount.isFinite = true)
    (hsize : absoluteUnits amounts < 10 ^ 9 * unitsPerOne) (hcount : amounts.length ≤ 2 ^ 20) :
    2 ^ 24 * ((total amounts).signedUnits - exactUnits amounts).natAbs ≤
      amounts.length * unitsPerOne := by
  refine total_error (k := 30) (by decide) hfinite fun before amount hbefore => ?_
  have hmembers : ∀ earlier ∈ before, earlier.isFinite = true := fun earlier h =>
    hfinite earlier (hbefore.subset (List.mem_append_left _ h))
  have hle := absoluteUnits_le_of_prefix hbefore
  have hlength := hbefore.length_le
  rw [absoluteUnits_append, absoluteUnits_singleton] at hle
  rw [List.length_append, List.length_singleton] at hlength
  have hunits := natAbs_signedUnits amount
  have hexact := natAbs_exactUnits_le before
  have hbelow : 2 * absoluteUnits before < 2 ^ 31 * unitsPerOne := by omega
  have hdrift := total_error_of_lt hmembers (by omega)
  have hmost : before.length * unitsPerOne ≤ 2 ^ 20 * unitsPerOne :=
    Nat.mul_le_mul_right _ (by omega)
  exact ⟨(natAbs_total_le (by decide) hmembers hbelow).1, by omega⟩

theorem moderate_of_lt (hfinite : ∀ amount ∈ amounts, amount.isFinite = true)
    (hsize : absoluteUnits amounts < 10 ^ 9 * unitsPerOne) :
    ∀ amount ∈ amounts, Moderate amount := by
  intro amount hamount
  have hunits := units_le_absoluteUnits hamount
  exact ⟨hfinite amount hamount, by omega⟩

theorem moderate_total (hfinite : ∀ amount ∈ amounts, amount.isFinite = true)
    (hsize : absoluteUnits amounts < 10 ^ 9 * unitsPerOne) : Moderate (total amounts) := by
  have hbelow : 2 * absoluteUnits amounts < 2 ^ 31 * unitsPerOne := by omega
  obtain ⟨hsum, hmost⟩ := natAbs_total_le (by decide) hfinite hbelow
  rw [natAbs_signedUnits] at hmost
  exact ⟨hsum, by omega⟩

/-- The balance is off from the sum of the cents by what was rounded off the amounts, by the errors
of the additions, and by less than half a cent and a thousandth. -/
theorem cents_total_error (hfinite : ∀ amount ∈ amounts, amount.isFinite = true)
    (hsize : absoluteUnits amounts < 10 ^ 9 * unitsPerOne) :
    1000 * ((cents (total amounts) - centsSum amounts).natAbs * unitsPerOne) ≤
      1000 * roundedOff amounts +
        100000 * ((total amounts).signedUnits - exactUnits amounts).natAbs + 501 * unitsPerOne := by
  have hmoderate := moderate_total hfinite hsize
  have hrounded := hmoderate.cents_error
  have hless := hmoderate.2
  have hsum := centsSum_error amounts
  have hdifference : (cents (total amounts) - centsSum amounts).natAbs * unitsPerOne =
      (cents (total amounts) * unitsPerOne - centsSum amounts * unitsPerOne).natAbs := by
    rw [← Int.sub_mul, Int.natAbs_mul, Int.natAbs_natCast]
  have htotal : centsOff (total amounts) =
      (cents (total amounts) * unitsPerOne - 100 * (total amounts).signedUnits).natAbs := rfl
  rw [hdifference]
  omega

/-- The balance is within half a cent for each amount, and half a cent, of the sum of the cents.
The errors of the additions come to less than half a cent for every 40000 amounts. -/
theorem natAbs_cents_total_le (hfinite : ∀ amount ∈ amounts, amount.isFinite = true)
    (hsize : absoluteUnits amounts < 10 ^ 9 * unitsPerOne) :
    2 * (cents (total amounts) - centsSum amounts).natAbs ≤
      amounts.length + 1 + amounts.length / 40000 := by
  have herror := cents_total_error hfinite hsize
  have hadditions := total_error_of_lt hfinite hsize
  have hoff := roundedOff_le (moderate_of_lt hfinite hsize)
  have hpositive := unitsPerOne_pos
  have hhalves : amounts.length * (2 ^ 53 * unitsPerOne) =
      2 ^ 53 * (amounts.length * unitsPerOne) := Nat.mul_left_comm ..
  rw [hhalves] at hoff
  have hless : 41000 * (2 * (cents (total amounts) - centsSum amounts).natAbs) * unitsPerOne <
      (41001 * amounts.length + 42000) * unitsPerOne := by
    rw [Nat.add_mul, Nat.mul_assoc, Nat.mul_assoc, Nat.mul_assoc]
    omega
  -- half cents are counted in whole numbers, so the bound may be rounded down
  have hbound := Nat.lt_of_mul_lt_mul_right hless
  omega

/-- The balance is the sum of the cents when little is rounded off. -/
theorem cents_total_eq (hfinite : ∀ amount ∈ amounts, amount.isFinite = true)
    (hsize : absoluteUnits amounts < 10 ^ 9 * unitsPerOne)
    (hclose : 10 ^ 6 * roundedOff amounts + 6 * (amounts.length * unitsPerOne) ≤
      490000 * unitsPerOne) : cents (total amounts) = centsSum amounts := by
  have hpositive := unitsPerOne_pos
  have hcount : amounts.length ≤ 2 ^ 20 := by
    apply Nat.le_of_mul_le_mul_right _ hpositive
    omega
  have herror := cents_total_error hfinite hsize
  have hadditions := total_error_of_few hfinite hsize hcount
  have hless : (cents (total amounts) - centsSum amounts).natAbs * unitsPerOne <
      1 * unitsPerOne := by omega
  have hnone := Nat.lt_of_mul_lt_mul_right hless
  omega

/-- A statement that has nothing but its amounts. -/
def Statement.ofAmounts (amounts : List Binary64) : Statement where
  currency := "NOK"
  payer := .default
  transactions := amounts.map fun amount => ⟨amount, none, none, ""⟩

@[simp] theorem Statement.amounts_ofAmounts (amounts : List Binary64) :
    (Statement.ofAmounts amounts).transactions.map (·.amount) = amounts := by
  simp [Statement.ofAmounts, Function.comp_def]

/-! ## The balance -/

namespace Ofx

/-- The values that lines have for a tag, read as hundredths. -/
def hundredthsOf (wanted : String) (lines : List String) : List (Option Int) :=
  (valuesOf wanted lines).map fun value => Decimal.hundredths? value.toList

theorem hundredthsOf_transactionAmounts (accountType : String) (statement : Statement) :
    hundredthsOf "TRNAMT" (lines accountType statement) =
      (statement.transactions.map (·.amount)).map fun amount =>
        Decimal.hundredths? (Ofx.amount amount).toList := by
  unfold hundredthsOf
  rw [valuesOf_transactionAmounts, List.map_map, List.map_map]
  rfl

theorem hundredthsOf_balance (accountType : String) (statement : Statement) :
    hundredthsOf "BALAMT" (lines accountType statement) =
      [Decimal.hundredths?
        (Ofx.amount (total (statement.transactions.map (·.amount)))).toList] := by
  unfold hundredthsOf total
  rw [valuesOf_balance, List.foldl_map]
  rfl

/-- **The balance agrees with the transactions up to what is rounded off them.**  Let the amounts of
a statement be finite, with absolute values that sum to less than `10 ^ 9`.  Every amount is then
written as its cents, and the balance is written as a number of cents too.  It differs from the sum
of the written amounts by at most half a cent for each of them, half a cent for its own rounding,
and half a cent for every 40000 of them, since the additions are rounded as well.

It is that sum whenever what is rounded off the amounts, and six millionths of a cent for each of
them, come to no more than 0.49 cents.  Nothing to speak of is rounded off amounts that rounding to
cents leaves unchanged, so it is that sum when all are such and there are at most 80000. -/
theorem balance_eq_sum (accountType : String) {statement : Statement}
    (hamounts : statement.transactions.map (·.amount) = amounts)
    (hfinite : ∀ amount ∈ amounts, amount.isFinite = true)
    (hsize : absoluteUnits amounts < 10 ^ 9 * unitsPerOne) :
    hundredthsOf "TRNAMT" (lines accountType statement) =
        amounts.map (fun amount => some (cents amount)) ∧
      ∃ balance, hundredthsOf "BALAMT" (lines accountType statement) = [some balance] ∧
        2 * (balance - centsSum amounts).natAbs ≤
          amounts.length + 1 + amounts.length / 40000 ∧
        (10 ^ 6 * roundedOff amounts + 6 * (amounts.length * unitsPerOne) ≤ 490000 * unitsPerOne →
          balance = centsSum amounts) ∧
        ((∀ amount ∈ amounts, IsWhole amount) → amounts.length ≤ 80000 →
          balance = centsSum amounts) := by
  have hmoderate := moderate_of_lt hfinite hsize
  refine ⟨?_, cents (total amounts), ?_, natAbs_cents_total_le hfinite hsize,
    cents_total_eq hfinite hsize, fun hwhole hcount => cents_total_eq hfinite hsize ?_⟩
  · rw [hundredthsOf_transactionAmounts, hamounts]
    exact List.map_congr_left fun amount hamount => (hmoderate amount hamount).hundredths?_amount
  · rw [hundredthsOf_balance, hamounts, (moderate_total hfinite hsize).hundredths?_amount]
  · have hoff := roundedOff_whole hmoderate hwhole
    have hadditions : amounts.length * unitsPerOne ≤ 80000 * unitsPerOne :=
      Nat.mul_le_mul_right _ hcount
    omega

/-- The amounts -149.90 and 35000.00. -/
def twoAmounts : List Binary64 :=
  [⟨0xc062bccccccccccd⟩, ⟨0x40e1170000000000⟩]

/-- Both are whole cents, so the balance is their sum. -/
theorem balance_eq_sum_twoAmounts :
    (∀ amount ∈ twoAmounts, amount.isFinite = true) ∧
      absoluteUnits twoAmounts < 10 ^ 9 * unitsPerOne ∧
      hundredthsOf "TRNAMT" (lines "CHECKING" (.ofAmounts twoAmounts)) =
        [some (-14990), some 3500000] ∧
      hundredthsOf "BALAMT" (lines "CHECKING" (.ofAmounts twoAmounts)) = [some 3485010] := by
  have hfinite : ∀ amount ∈ twoAmounts, amount.isFinite = true := by decide
  have hsize : absoluteUnits twoAmounts < 10 ^ 9 * unitsPerOne := by decide +kernel
  have hwhole : ∀ amount ∈ twoAmounts, (roundCents amount).signedUnits = amount.signedUnits := by
    decide +kernel
  obtain ⟨hwritten, balance, hbalance, -, -, hequal⟩ :=
    balance_eq_sum "CHECKING" (Statement.amounts_ofAmounts twoAmounts) hfinite hsize
  have hcents : twoAmounts.map (fun amount => some (cents amount)) =
      [some (-14990), some 3500000] := by decide +kernel
  have hsum : centsSum twoAmounts = 3485010 := by decide +kernel
  refine ⟨hfinite, hsize, hwritten.trans hcents, ?_⟩
  rw [hbalance, hequal hwhole (by decide), hsum]

/-- The amount 536870912.00. -/
def greatAmount : Binary64 := ⟨0x41c0000000000000⟩

/-- The amount 0.06. -/
def sixCents : Binary64 := ⟨0x3faeb851eb851eb8⟩

/-- What has to be computed: the sum of the great amount alone, and that 503316 is the number of
times that 0.06 has `2 ^ -23`, of which the values from 536870912 on are multiples. -/
theorem sixCents_computed :
    ofMagnitude false greatAmount.magnitude = total [greatAmount] ∧
      2 * (503316 * 2 ^ 1051) < 2 * units sixCents.magnitude + 2 ^ 1051 ∧
      2 * units sixCents.magnitude < 2 * (503316 * 2 ^ 1051) + 2 ^ 1051 := by
  decide +kernel

theorem add_sixCents {count : Nat} (h : count < 87399) :
    ofMagnitude false (greatAmount.magnitude + 503316 * count) + sixCents =
      ofMagnitude false (greatAmount.magnitude + 503316 * (count + 1)) := by
  obtain ⟨shift, hshift⟩ : ∃ shift, shift = 1051 := ⟨_, rfl⟩
  have hfinite : sixCents.isFinite = true := by decide
  have hpositive : sixCents.negative = false := by decide
  have hstart : greatAmount.magnitude = shift * 2 ^ 52 + 2 ^ 52 := by
    rw [hshift]
    decide
  obtain ⟨-, hclose⟩ := sixCents_computed
  rw [← hshift] at hclose
  rw [hstart, Nat.add_assoc, Nat.add_assoc, add_of_step (by omega) (by omega) (by omega) hfinite
    hpositive hclose.1 hclose.2, Nat.add_assoc, Nat.mul_succ]

theorem total_sixCents {count : Nat} (h : count ≤ 87399) :
    total (greatAmount :: List.replicate count sixCents) =
      ofMagnitude false (greatAmount.magnitude + 503316 * count) := by
  induction count with
  | zero => exact sixCents_computed.1.symm
  | succ count ih =>
      rw [List.replicate_succ', ← List.cons_append, total_append_singleton, ih (by omega),
        add_sixCents h]

/-- The amount 0.004. -/
def fourMills : Binary64 := ⟨0x3f70624dd2f1a9fc⟩

/-- What is rounded off the amounts may make the balance another number than the sum of the written
amounts: 0.004 is written as 0.00, and twice that as 0.01.  So may the errors of the additions, when
rounding to cents leaves every amount unchanged but there are more than 80000: the balance of
536870912.00 and 87399 times 0.06 is a cent less than the sum, 536876155.94. -/
theorem balance_ne_sum :
    (hundredthsOf "TRNAMT" (lines "CHECKING" (.ofAmounts [fourMills, fourMills])) =
          [some 0, some 0] ∧
        hundredthsOf "BALAMT" (lines "CHECKING" (.ofAmounts [fourMills, fourMills])) = [some 1]) ∧
      ∃ amounts : List Binary64, amounts = greatAmount :: List.replicate 87399 sixCents ∧
        (∀ amount ∈ amounts, amount.isFinite = true ∧ IsWhole amount) ∧
        absoluteUnits amounts < 10 ^ 9 * unitsPerOne ∧
        hundredthsOf "TRNAMT" (lines "CHECKING" (.ofAmounts amounts)) =
          some 53687091200 :: List.replicate 87399 (some 6) ∧
        hundredthsOf "BALAMT" (lines "CHECKING" (.ofAmounts amounts)) =
          [some (53687091200 + 87399 * 6 - 1)] := by
  obtain ⟨count, hcount⟩ : ∃ count, count = 87399 := ⟨_, rfl⟩
  refine ⟨?_, greatAmount :: List.replicate count sixCents, by rw [hcount], ?_, ?_, ?_, ?_⟩
  · rw [hundredthsOf_transactionAmounts, hundredthsOf_balance, Statement.amounts_ofAmounts]
    decide +kernel
  · intro amount hamount
    have hgreat : greatAmount.isFinite = true ∧
        (roundCents greatAmount).signedUnits = greatAmount.signedUnits := by decide +kernel
    have hsix : sixCents.isFinite = true ∧
        (roundCents sixCents).signedUnits = sixCents.signedUnits := by decide +kernel
    rcases List.mem_cons.mp hamount with rfl | hrest
    · exact hgreat
    · rw [List.eq_of_mem_replicate hrest]
      exact hsix
  · have hsize : units greatAmount.magnitude + 87399 * units sixCents.magnitude <
        10 ^ 9 * unitsPerOne := by decide +kernel
    have hsum : absoluteUnits (greatAmount :: List.replicate count sixCents) =
        units greatAmount.magnitude + count * units sixCents.magnitude := by
      rw [absoluteUnits, absoluteUnits_replicate]
    rw [hsum, hcount]
    exact hsize
  · have hgreat : Decimal.hundredths? (Ofx.amount greatAmount).toList = some 53687091200 := by
      decide +kernel
    have hsix : Decimal.hundredths? (Ofx.amount sixCents).toList = some 6 := by decide +kernel
    rw [hundredthsOf_transactionAmounts, Statement.amounts_ofAmounts, List.map_cons,
      List.map_replicate, hgreat, hsix, hcount]
  · have hprinted : Decimal.hundredths? (Ofx.amount
        (ofMagnitude false (greatAmount.magnitude + 503316 * 87399))).toList =
          some (53687091200 + 87399 * 6 - 1) := by decide +kernel
    rw [hundredthsOf_balance, Statement.amounts_ofAmounts, total_sixCents (Nat.le_of_eq hcount),
      hcount, hprinted]

end Ofx

end BankStatement
