import BankStatement.Proofs.Conversion.Refinement

/-!
# A conversion that fails leaves nothing or a prefix

A conversion may fail while it reads, while it writes and when it flushes.  What is left behind
tells which of them it was.

* Nothing is logged or written before the last row has been read, so whatever is wrong with the
  format, with the source or with a row leaves log and output empty (`FromInput`).
* A document is written in pieces, but what an output of limited room keeps of it is a prefix of the
  whole text (`run_of_short`).
* A flush comes after the whole text, and its failure is reported like that of a write
  (`run_of_room`).
-/

namespace BankStatement

/-! ## Failures of the input -/

/-- Whether an error is about the format, the source or a row of it. -/
def ConversionError.FromInput : ConversionError → Prop
  | catalog _ | read _ | malformedRow .. => True
  | openSource .. | createOutput .. | write _ => False

namespace Format

theorem fromInput_of_decodeRows {format : Format} {reader : RowReader} {sofar : List Transaction}
    {e : ConversionError} (h : format.decodeRows reader sofar = .error e) : e.FromInput := by
  fun_induction decodeRows format reader sofar with
  | case1 reader sofar message =>
      rw [Except.error.injEq] at h
      subst h
      trivial
  | case2 => cases h
  | case3 reader sofar row after hnext rowError =>
      rw [Except.error.injEq] at h
      subst h
      trivial
  | case4 reader sofar row after hnext transaction hdecode ih => exact ih h

variable [NationalDecoders]

theorem fromInput_of_readTransactions {format : Format} {source : Source} {e : ConversionError}
    (h : format.readTransactions source = .error e) : e.FromInput := by
  unfold readTransactions at h
  split at h
  · rw [Except.error.injEq] at h
    subst h
    trivial
  · split at h
    · rw [Except.error.injEq] at h
      subst h
      trivial
    · exact fromInput_of_decodeRows h

end Format

namespace Conversion

section

variable [NationalDecoders]

theorem fromInput_of_statement {c : Conversion} {source : Source} {e : ConversionError}
    (h : c.statement source = .error e) : e.FromInput := by
  cases hread : c.format.readTransactions source with
  | error error =>
      rw [statement, hread] at h
      cases h
      exact Format.fromInput_of_readTransactions hread
  | ok transactions =>
      rw [statement, hread] at h
      cases h

/-- The transactions of a statement of a source are all that the source decides. -/
theorem eq_of_statement {c : Conversion} {source : Source} {statement : Statement}
    (h : c.statement source = .ok statement) :
    statement = ⟨c.format.currency, c.payer, statement.transactions⟩ := by
  unfold Conversion.statement at h
  cases hread : c.format.readTransactions source with
  | error e =>
      rw [hread] at h
      cases h
  | ok transactions =>
      rw [hread] at h
      cases h
      rfl

/-- A failure of the input is met before anything is logged or written. -/
theorem run_of_error {c : Conversion} {source : Source} {e : ConversionError}
    (h : c.statement source = .error e) (output log : Sink) :
    c.run source output log = ⟨.error e, output, log⟩ := by
  unfold run
  rw [h]

/-! ## Failures of the output -/

variable {c : Conversion} {source : Source} {statement : Statement}

theorem run_of_write_error (h : c.statement source = .ok statement) {output after : Sink}
    {reason : String} (hwrite : output.write (c.rendering statement) = (.error reason, after))
    (log : Sink) :
    c.run source output log = ⟨.error (.write reason), after, log.info statement.summary⟩ := by
  have hresult : c.write statement output = (.error (.write reason), after) := by
    rw [write, writeLines_lines, hwrite]
  unfold run
  rw [h]
  simp only [hresult]

theorem run_of_write_ok (h : c.statement source = .ok statement) {output after : Sink}
    (hwrite : output.write (c.rendering statement) = (.ok (), after)) (log : Sink) :
    c.run source output log =
      ⟨if after.flushFails then .error (.write Sink.flushFailure) else .ok statement, after,
        log.info statement.summary⟩ := by
  cases hflush : after.flushFails with
  | false =>
      have hresult : c.write statement output = (.ok (), after) := by
        rw [write, writeLines_lines, hwrite]
        simp [Sink.flush, hflush]
      unfold run
      rw [h]
      simp [hresult]
  | true =>
      have hresult : c.write statement output = (.error (.write Sink.flushFailure), after) := by
        rw [write, writeLines_lines, hwrite]
        simp [Sink.flush, hflush]
      unfold run
      rw [h]
      simp [hresult]

/-- An output with less room than the text needs is filled with a prefix of the text. -/
theorem run_of_short (h : c.statement source = .ok statement) {room : Nat} (flushFails : Bool)
    (hroom : room < (c.rendering statement).length) (log : Sink) :
    ∃ output, c.run source (.ofRoom (some room) flushFails) log =
        ⟨.error (.write Sink.writeFailure), output, log.info statement.summary⟩ ∧
      output.written = (c.rendering statement).take room := by
  obtain ⟨output, hwrite, hwritten⟩ :=
    Sink.write_of_short (.ofRoom (some room) flushFails) (c.rendering statement) rfl hroom
  rw [Sink.ofRoom, List.nil_append] at hwritten
  exact ⟨output, run_of_write_error h hwrite log, hwritten⟩

/-- An output with room for the text gets all of it, and then it is flushed. -/
theorem run_of_room (h : c.statement source = .ok statement) {room : Option Nat} (flushFails : Bool)
    (hroom : ∀ n, room = some n → (c.rendering statement).length ≤ n) (log : Sink) :
    ∃ output, c.run source (.ofRoom room flushFails) log =
        ⟨if flushFails then .error (.write Sink.flushFailure) else .ok statement, output,
          log.info statement.summary⟩ ∧
      output.written = c.rendering statement := by
  obtain ⟨output, hwrite, hwritten, hflush⟩ :=
    Sink.write_of_fits (.ofRoom room flushFails) (c.rendering statement) hroom
  rw [Sink.ofRoom, List.nil_append] at hwritten
  refine ⟨output, ?_, hwritten⟩
  rw [run_of_write_ok h hwrite log, hflush, Sink.ofRoom]

/-! ## All failures -/

/-- How a conversion ends: in a failure of the input, of a write, or with the whole text written. -/
theorem run_cases (c : Conversion) (source : Source) (room : Option Nat) (flushFails : Bool) :
    (∃ e, c.statement source = .error e ∧ e.FromInput ∧
      c.run source (.ofRoom room flushFails) .unlimited =
        ⟨.error e, .ofRoom room flushFails, .unlimited⟩) ∨
    ∃ statement output log, c.statement source = .ok statement ∧
      log.written = summaryLine statement ∧
      ((∃ n, room = some n ∧ n < (c.rendering statement).length ∧
          c.run source (.ofRoom room flushFails) .unlimited =
            ⟨.error (.write Sink.writeFailure), output, log⟩ ∧
          output.written = (c.rendering statement).take n) ∨
        (∀ n, room = some n → (c.rendering statement).length ≤ n) ∧
          c.run source (.ofRoom room flushFails) .unlimited =
            ⟨if flushFails then .error (.write Sink.flushFailure) else .ok statement, output, log⟩ ∧
          output.written = c.rendering statement) := by
  cases hread : c.statement source with
  | error e => exact .inl ⟨e, rfl, fromInput_of_statement hread, run_of_error hread ..⟩
  | ok statement =>
      by_cases hroom : ∃ n, room = some n ∧ n < (c.rendering statement).length
      · obtain ⟨n, rfl, hshort⟩ := hroom
        obtain ⟨output, hrun, hwritten⟩ := run_of_short hread flushFails hshort .unlimited
        exact .inr ⟨statement, output, _, rfl, by rw [info_summary_unlimited],
          .inl ⟨n, rfl, hshort, hrun, hwritten⟩⟩
      · have hfits : ∀ n, room = some n → (c.rendering statement).length ≤ n :=
          fun n hn => Nat.not_lt.mp fun hshort => hroom ⟨n, hn, hshort⟩
        obtain ⟨output, hrun, hwritten⟩ := run_of_room hread flushFails hfits .unlimited
        exact .inr ⟨statement, output, _, rfl, by rw [info_summary_unlimited],
          .inr ⟨hfits, hrun, hwritten⟩⟩

/-- **What a conversion leaves behind.**  Whatever the source delivers and wherever it fails,
however much room the output has and whether its flush fails:

* a failure of the input leaves output and log empty;
* a failure of a write leaves the prefix of the text that had room, a failure of the flush leaves
  the whole text, and either leaves the line about the statement in the log;
* success means that the whole text had room and was flushed;
* no failure of a write or of the flush goes unnoticed. -/
theorem run_leaves_prefix (c : Conversion) (source : Source) (room : Option Nat)
    (flushFails : Bool) :
    let outcome := c.run source (.ofRoom room flushFails) .unlimited
    (∀ e, outcome.result = .error e → e.FromInput →
      outcome.output.written = [] ∧ outcome.log.written = []) ∧
    (∀ e, outcome.result = .error e → ¬ e.FromInput →
      ∃ statement, c.statement source = .ok statement ∧
        outcome.log.written = summaryLine statement ∧
        ((∃ n, room = some n ∧ n < (c.rendering statement).length ∧
            e = .write Sink.writeFailure ∧
            outcome.output.written = (c.rendering statement).take n) ∨
          flushFails = true ∧ e = .write Sink.flushFailure ∧
            outcome.output.written = c.rendering statement)) ∧
    (∀ statement, outcome.result = .ok statement →
      c.statement source = .ok statement ∧ outcome.log.written = summaryLine statement ∧
        (∀ n, room = some n → (c.rendering statement).length ≤ n) ∧ flushFails = false ∧
        outcome.output.written = c.rendering statement) ∧
    (∀ statement, c.statement source = .ok statement →
      (∀ n, room = some n → n < (c.rendering statement).length →
        outcome.result = .error (.write Sink.writeFailure)) ∧
      ((∀ n, room = some n → (c.rendering statement).length ≤ n) → flushFails = true →
        outcome.result = .error (.write Sink.flushFailure))) := by
  intro outcome
  rcases run_cases c source room flushFails with
    ⟨e, hread, hinput, hrun⟩ | ⟨statement, output, log, hread, hlog, hend⟩
  -- the input failed
  · rw [show outcome = _ from hrun]
    refine ⟨fun _ _ _ => ⟨rfl, rfl⟩, fun e' he' hother => ?_, (fun _ hresult => nomatch hresult),
      fun statement hstatement => ?_⟩
    · cases he'
      exact absurd hinput hother
    · rw [hread] at hstatement
      cases hstatement
  · rcases hend with ⟨n, hroom, hshort, hrun, hwritten⟩ | ⟨hroom, hrun, hwritten⟩
    -- the output ran out of room
    · rw [show outcome = _ from hrun]
      refine ⟨fun e he hinput => ?_, fun e he _ => ?_, (fun _ hresult => nomatch hresult),
        fun other hother => ⟨fun _ _ _ => rfl, fun hfits _ => ?_⟩⟩
      · cases he
        exact hinput.elim
      · cases he
        exact ⟨statement, hread, hlog, .inl ⟨n, hroom, hshort, rfl, hwritten⟩⟩
      · rw [hread, Except.ok.injEq] at hother
        rw [← hother] at hfits
        exact absurd (hfits n hroom) (Nat.not_le.mpr hshort)
    -- the whole text was written, and then the flush decided
    · rw [show outcome = _ from hrun]
      refine ⟨fun e he hinput => ?_, fun e he _ => ?_, fun other hresult => ?_,
        fun other hother => ⟨fun n hn hshort => ?_, fun _ hflush => by rw [if_pos hflush]⟩⟩
      · cases flushFails with
        | false => cases he
        | true =>
            cases he
            exact hinput.elim
      · cases flushFails with
        | false => cases he
        | true =>
            cases he
            exact ⟨statement, hread, hlog, .inr ⟨rfl, rfl, hwritten⟩⟩
      · cases flushFails with
        | true => cases hresult
        | false =>
            cases hresult
            exact ⟨hread, hlog, hroom, rfl, hwritten⟩
      · rw [hread, Except.ok.injEq] at hother
        rw [← hother] at hshort
        exact absurd (hroom n hn) (Nat.not_le.mpr hshort)

end

attribute [local instance] NationalDecoders.asciiOnly

/-- An empty statement is written as a whole before the flush fails. -/
theorem run_leaves_prefix_failedFlush :
    let c : Conversion := ⟨.exampleFormat, .default, Ofx.defaultAccountType⟩
    let empty : Statement := ⟨"NOK", .default, []⟩
    let outcome := c.run [] (.ofRoom none true) .unlimited
    outcome.result = .error (.write Sink.flushFailure) ∧
      outcome.output.written = c.rendering empty ∧ outcome.log.written = summaryLine empty := by
  intro c empty outcome
  have hrows : (RowReader.ofSource 0x3b []).rows.rows.drop 1 = [] := by
    rw [RowReader.rows_ofSource]
    rfl
  have hstatement : c.statement [] = .ok empty :=
    statement_of_forall₂ (Format.rowReader_exampleFormat []) (by simp [Source.NeverFails])
      (by rw [hrows]; exact .nil)
  obtain ⟨-, houtput, -, hloss⟩ := run_leaves_prefix c [] none true
  have hresult : outcome.result = .error (.write Sink.flushFailure) :=
    (hloss empty hstatement).2 (fun n hn => by cases hn) rfl
  obtain ⟨statement, hread, hlog, ⟨n, hn, _⟩ | ⟨_, _, hwritten⟩⟩ := houtput _ hresult id
  · cases hn
  · cases hstatement.symm.trans hread
    exact ⟨hresult, hwritten, hlog⟩

end Conversion

end BankStatement
