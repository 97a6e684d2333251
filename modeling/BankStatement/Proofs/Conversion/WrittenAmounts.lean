import BankStatement.Proofs.Conversion.Atomicity
import BankStatement.Proofs.Conversion.Deliveries
import BankStatement.Proofs.Statement.Amounts
import BankStatement.Proofs.Statement.Values

/-!
# The amounts that a conversion writes

A statement that was written in full has one amount for each transaction and one for the balance.
Each is a number with two places exactly when a hundred times the amount is finite
(`Conversion.hasTwoPlaces_amounts`).  Nothing before that keeps other values away: the tokens `inf`
and `nan` are numbers to the reader of tokens, and a long token, a multiplier or a sum may leave the
finite values, also for formats of loaded catalogs (`Conversion.amounts_of_inf`).
-/

namespace BankStatement.Conversion

section

variable [NationalDecoders]

/-- A conversion that succeeds has written the statement in full. -/
theorem written_of_run {c : Conversion} {source : Source} {room : Option Nat} {flushFails : Bool}
    {statement : Statement}
    (h : (c.run source (.ofRoom room flushFails) .unlimited).result = .ok statement) :
    c.statement source = .ok statement ∧
      (c.run source (.ofRoom room flushFails) .unlimited).output.written =
        c.rendering statement := by
  rcases run_cases c source room flushFails with
    ⟨e, _, _, hrun⟩ | ⟨other, output, log, hstatement, _, hend⟩
  · rw [hrun] at h
    cases h
  · rcases hend with ⟨n, _, _, hrun, _⟩ | ⟨_, hrun, hwritten⟩
    · rw [hrun] at h
      cases h
    · rw [hrun] at h ⊢
      cases flushFails with
      | false =>
          obtain rfl : other = statement := Except.ok.inj h
          exact ⟨hstatement, hwritten⟩
      | true => cases h

/-- **Which amounts are written as numbers.**  Whatever the format, the source and the output are, a
conversion that succeeds writes the lines of its statement.  All amounts among them are an optional
minus, one or more digits, a point and two digits exactly when a hundred times the amount of each
transaction and a hundred times the total are finite. -/
theorem hasTwoPlaces_amounts (c : Conversion) (source : Source) (room : Option Nat)
    (flushFails : Bool) {statement : Statement}
    (h : (c.run source (.ofRoom room flushFails) .unlimited).result = .ok statement) :
    let lines := Ofx.lines c.accountType statement
    (c.run source (.ofRoom room flushFails) .unlimited).output.written =
        Utf8.encode (String.join (lines.map (· ++ "\n"))).toList ∧
      ((∀ value ∈ Ofx.valuesOf "TRNAMT" lines ++ Ofx.valuesOf "BALAMT" lines,
          Decimal.HasTwoPlaces value.toList) ↔
        (∀ transaction ∈ statement.transactions,
          (transaction.amount * .ofInt 100).isFinite = true) ∧
        (statement.total * .ofInt 100).isFinite = true) := by
  intro lines
  refine ⟨(written_of_run h).2, ?_⟩
  rw [Ofx.valuesOf_transactionAmounts, Ofx.valuesOf_balance, List.forall_mem_append,
    List.forall_mem_map, List.forall_mem_singleton, Ofx.hasTwoPlaces_amount]
  simp only [Ofx.hasTwoPlaces_amount]

/-- The example's statement of a header and one row. -/
theorem result_of_kiosk :
    ((⟨.exampleFormat, .default, Ofx.defaultAccountType⟩ : Conversion).run
      [.bytes 0x68 (Utf8.encode "\n01.02.2024;x;kiosk;;12.5\n".toList)] .unlimited
      .unlimited).result = .ok ⟨"NOK", .default, [⟨⟨0x4029000000000000⟩,
        some (.ofDate ⟨2024, 2, 1, by decide, by decide, by decide⟩), none, "kiosk"⟩]⟩ := by
  have hsource : Source.NeverFails
      [.bytes 0x68 (Utf8.encode "\n01.02.2024;x;kiosk;;12.5\n".toList)] := by
    simp [Source.NeverFails]
  refine result_of_full_row hsource 2 ?_
  rw [RowReader.rows_ofSource]
  decide

end

attribute [local instance] NationalDecoders.asciiOnly

/-- An amount of twelve and a half. -/
theorem hasTwoPlaces_amounts_exampleFormat :
    let c : Conversion := ⟨.exampleFormat, .default, Ofx.defaultAccountType⟩
    let source : Source := [.bytes 0x68 (Utf8.encode "\n01.02.2024;x;kiosk;;12.5\n".toList)]
    let transaction : Transaction :=
      ⟨⟨0x4029000000000000⟩, some (.ofDate ⟨2024, 2, 1, by decide, by decide, by decide⟩), none,
        "kiosk"⟩
    let statement : Statement := ⟨"NOK", .default, [transaction]⟩
    (c.run source .unlimited .unlimited).result = .ok statement ∧
      (transaction.amount * .ofInt 100).isFinite = true ∧
      (statement.total * .ofInt 100).isFinite = true ∧
      ∀ value ∈ Ofx.valuesOf "TRNAMT" (Ofx.lines c.accountType statement) ++
        Ofx.valuesOf "BALAMT" (Ofx.lines c.accountType statement),
          Decimal.HasTwoPlaces value.toList := by
  intro c source transaction statement
  have hresult : (c.run source .unlimited .unlimited).result = .ok statement := result_of_kiosk
  have hamount : (transaction.amount * .ofInt 100).isFinite = true := by decide +kernel
  have htotal : (statement.total * .ofInt 100).isFinite = true := by decide +kernel
  refine ⟨hresult, hamount, htotal, ?_⟩
  exact (hasTwoPlaces_amounts c source none false hresult).2.mpr
    ⟨List.forall_mem_singleton.mpr hamount, htotal⟩

/-- A format of a loaded catalog, and a row with the token `inf`: the conversion succeeds, and
neither of the amounts that it writes is a number. -/
theorem amounts_of_inf :
    let catalog : Catalog := ⟨[.exampleFormat]⟩
    let c : Conversion := ⟨.exampleFormat, .default, Ofx.defaultAccountType⟩
    let source : Source := [.bytes 0x68 (Utf8.encode "\n01.02.2024;x;kiosk;;inf\n".toList)]
    let statement : Statement := ⟨"NOK", .default,
      [⟨.infinity false, some (.ofDate ⟨2024, 2, 1, by decide, by decide, by decide⟩), none,
        "kiosk"⟩]⟩
    Catalog.ofText catalog.toText = .ok catalog ∧ catalog.find "spv-kreditt" = .ok c.format ∧
      (c.run source .unlimited .unlimited).result = .ok statement ∧
      Ofx.valuesOf "TRNAMT" (Ofx.lines c.accountType statement) = ["inf"] ∧
      Ofx.valuesOf "BALAMT" (Ofx.lines c.accountType statement) = ["inf"] ∧
      ¬ Decimal.HasTwoPlaces "inf".toList := by
  intro catalog c source statement
  have hsource : source.NeverFails := by simp [Source.NeverFails, source]
  have hrows : (RowReader.ofSource 0x3b source).rows.rows.drop 1 =
      [⟨2, ["01.02.2024", "x", "kiosk", "", "inf"].map fun text => Utf8.encode text.toList⟩] := by
    rw [RowReader.rows_ofSource]
    decide
  refine ⟨Catalog.ofText_of_storable Catalog.storable_exampleFormat, rfl,
    result_of_row hsource hrows (by unfold Format.Decodes; decide +kernel), ?_, ?_, ?_⟩
  · rw [Ofx.valuesOf_transactionAmounts]
    decide +kernel
  · rw [Ofx.valuesOf_balance]
    decide +kernel
  · rw [← Decimal.isSome_hundredths?]
    decide

end BankStatement.Conversion
