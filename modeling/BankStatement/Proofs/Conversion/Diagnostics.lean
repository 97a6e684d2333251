import BankStatement.Proofs.Conversion.Atomicity

/-!
# A log that fails changes nothing but itself

Whether a line of diagnostics fits in the log is not looked at, so a log of limited room can only be
seen in the log.  There it keeps the first bytes of all lines: a line may be cut anywhere, and no
line after it resumes, not even one that would have fit.

## Strategy

Two logs are followed through the same calls, one with room for `n` bytes and one that takes
everything.  `Sink.Follows` relates them: the one holds the first `n` bytes of the other, and has
room for what is missing from `n`.  Every write keeps this (`Follows.write`), so every call does,
and a run, which makes one call at most (`Conversion.follows_run`).  The result and the output of a
run are the same for all logs (`Conversion.run_eq_of_log`).
-/

namespace BankStatement

/-! ## Calls -/

/-- A call that leaves a line of diagnostics. -/
inductive Diagnostic where
  | info (message : String)
  | echo (label value : String)

namespace Diagnostic

/-- The line that a call leaves. -/
def line : Diagnostic → String
  | info message => message
  | echo label value => label ++ ": " ++ value

/-- The bytes of the line, and of its end. -/
def bytes (call : Diagnostic) : List UInt8 :=
  Utf8.encode (call.line ++ "\n").toList

end Diagnostic

namespace Sink

/-- The sink after a call. -/
def report (sink : Sink) : Diagnostic → Sink
  | .info message => sink.info message
  | .echo label value => sink.echo label value

/-- The sink after several calls, whatever became of each of them. -/
def reportAll (sink : Sink) (calls : List Diagnostic) : Sink :=
  calls.foldl report sink

theorem report_eq_write (sink : Sink) (call : Diagnostic) :
    sink.report call = (sink.write call.bytes).2 := by
  cases call with
  | info message => exact info_eq_write sink message
  | echo label value => exact info_eq_write sink (label ++ ": " ++ value)

/-- Each line may be written in any pieces. -/
theorem foldl_writePieces_eq_reportAll (sink : Sink) {cuts : List (List (List UInt8))}
    {calls : List Diagnostic} (h : cuts.map List.flatten = calls.map Diagnostic.bytes) :
    cuts.foldl (fun sink pieces => (sink.writePieces pieces).2) sink = sink.reportAll calls := by
  induction calls generalizing sink cuts with
  | nil =>
      obtain rfl : cuts = [] := List.map_eq_nil_iff.mp h
      rfl
  | cons call rest ih =>
      obtain ⟨pieces, others, rfl, hpieces, hothers⟩ := List.map_eq_cons_iff.mp h
      have hline : (sink.writePieces pieces).2 = sink.report call := by
        rw [report_eq_write, writePieces_eq_write, hpieces]
      rw [List.foldl_cons, hline]
      exact ih (sink.report call) hothers

theorem reportAll_append (sink : Sink) (calls others : List Diagnostic) :
    (sink.reportAll calls).reportAll others = sink.reportAll (calls ++ others) :=
  List.foldl_append.symm

/-! ## A sink that takes everything -/

theorem write_of_room_none {sink : Sink} (h : sink.room = none) (bytes : List UInt8) :
    sink.write bytes = (.ok (), { sink with written := sink.written ++ bytes }) := by
  simp [write, h]

theorem reportAll_of_room_none {sink : Sink} (h : sink.room = none) (calls : List Diagnostic) :
    sink.reportAll calls =
      { sink with written := sink.written ++ calls.flatMap Diagnostic.bytes } := by
  induction calls generalizing sink with
  | nil => simp [reportAll]
  | cons call rest ih =>
      have hafter : sink.report call = { sink with written := sink.written ++ call.bytes } := by
        rw [report_eq_write, write_of_room_none h]
      calc (sink.report call).reportAll rest
          = { sink.report call with
              written := (sink.report call).written ++ rest.flatMap Diagnostic.bytes } :=
            ih (by rw [hafter]; exact h)
        _ = { sink with written := sink.written ++ (call :: rest).flatMap Diagnostic.bytes } := by
            rw [hafter, List.flatMap_cons, List.append_assoc]

/-! ## Two sinks with the same calls -/

/-- Whether a sink holds the first `n` bytes of another one that takes everything, and has room for
those that are missing from `n`. -/
structure Follows (n : Nat) (limited all : Sink) : Prop where
  written : limited.written = all.written.take n
  room : limited.room = some (n - all.written.length)
  unlimited : all.room = none

namespace Follows

variable {n : Nat} {limited all : Sink}

theorem ofRoom (n : Nat) (flushFails : Bool) :
    Follows n (.ofRoom (some n) flushFails) .unlimited :=
  ⟨by simp [Sink.ofRoom, Sink.unlimited], rfl, rfl⟩

/-- Bytes that do not fit any more leave no room, so nothing that comes later can follow them. -/
theorem write (h : Follows n limited all) (bytes : List UInt8) :
    Follows n (limited.write bytes).2 (all.write bytes).2 := by
  rw [write_of_room_none h.unlimited]
  have hbytes : (all.written ++ bytes).take n =
      limited.written ++ bytes.take (n - all.written.length) := by
    rw [List.take_append, h.written]
  by_cases hfits : bytes.length ≤ n - all.written.length
  · have hwrite : (limited.write bytes).2 = { limited with
        written := limited.written ++ bytes
        room := some (n - all.written.length - bytes.length) } := by
      simp [Sink.write, h.room, hfits]
    rw [hwrite]
    refine ⟨?_, ?_, h.unlimited⟩
    · rw [hbytes, List.take_of_length_le hfits]
    · rw [List.length_append, Nat.sub_sub]
  · have hwrite : (limited.write bytes).2 = { limited with
        written := limited.written ++ bytes.take (n - all.written.length), room := some 0 } := by
      simp [Sink.write, h.room, hfits]
    have hfull : n - (all.written ++ bytes).length = 0 := by
      rw [List.length_append]
      omega
    rw [hwrite]
    exact ⟨hbytes.symm, (congrArg some hfull).symm, h.unlimited⟩

theorem report (h : Follows n limited all) (call : Diagnostic) :
    Follows n (limited.report call) (all.report call) := by
  rw [report_eq_write, report_eq_write]
  exact h.write call.bytes

theorem reportAll (h : Follows n limited all) (calls : List Diagnostic) :
    Follows n (limited.reportAll calls) (all.reportAll calls) := by
  induction calls generalizing limited all with
  | nil => exact h
  | cons call rest ih => exact ih (h.report call)

end Follows

end Sink

/-! ## Runs -/

namespace Conversion

section

variable [NationalDecoders]

/-- The calls that a conversion makes. -/
def diagnostics (c : Conversion) (source : Source) : List Diagnostic :=
  match c.statement source with
  | .error _ => []
  | .ok statement => [.info statement.summary]

/-- The log of a run is what its calls make of it, and nothing else depends on it. -/
theorem run_eq_of_log (c : Conversion) (source : Source) (output log : Sink) :
    c.run source output log = ⟨(c.run source output .unlimited).result,
      (c.run source output .unlimited).output, log.reportAll (c.diagnostics source)⟩ := by
  cases hstatement : c.statement source with
  | error e =>
      have hlog : log.reportAll (c.diagnostics source) = log := by
        unfold diagnostics
        rw [hstatement]
        rfl
      rw [run_of_error hstatement, run_of_error hstatement, hlog]
  | ok statement =>
      have hlog : log.reportAll (c.diagnostics source) = log.info statement.summary := by
        unfold diagnostics
        rw [hstatement]
        rfl
      rw [hlog]
      cases hwrite : output.write (c.rendering statement) with
      | mk written after =>
          cases written with
          | error reason =>
              rw [run_of_write_error hstatement hwrite, run_of_write_error hstatement hwrite]
          | ok _ => rw [run_of_write_ok hstatement hwrite, run_of_write_ok hstatement hwrite]

theorem follows_run {n : Nat} {limited all : Sink} (h : limited.Follows n all) (c : Conversion)
    (source : Source) (output : Sink) :
    (c.run source output limited).log.Follows n (c.run source output all).log := by
  rw [run_eq_of_log c source output limited, run_eq_of_log c source output all]
  exact h.reportAll (c.diagnostics source)

/-- **A log that fails cannot change a conversion.**  Take a log with room for `n` bytes and one
that takes everything, both after the same calls.  Whatever the format, the source, the payer and
the output are, a run has the same result and the same output with both.  The one that takes
everything holds all lines in full, and the other one the first `n` bytes of them, also after
further calls, and whatever pieces the lines are written in. -/
theorem run_of_limited_log (c : Conversion) (source : Source) (output : Sink) (n : Nat)
    (flushFails : Bool) :
    let limited : Sink := .ofRoom (some n) flushFails
    (∀ earlier later : List Diagnostic,
      let first := c.run source output (limited.reportAll earlier)
      let second := c.run source output (Sink.unlimited.reportAll earlier)
      first.result = second.result ∧ first.output = second.output ∧
        (second.log.reportAll later).written =
          (earlier ++ c.diagnostics source ++ later).flatMap Diagnostic.bytes ∧
        (first.log.reportAll later).written = (second.log.reportAll later).written.take n) ∧
    ∀ calls : List Diagnostic,
      (limited.reportAll calls).written = (Sink.unlimited.reportAll calls).written.take n ∧
        ∀ cuts : List (List (List UInt8)), cuts.map List.flatten = calls.map Diagnostic.bytes →
          cuts.foldl (fun sink pieces => (sink.writePieces pieces).2) limited =
            limited.reportAll calls := by
  intro limited
  have hempty : limited.Follows n .unlimited := Sink.Follows.ofRoom n flushFails
  refine ⟨fun earlier later => ?_, fun calls => ⟨(hempty.reportAll calls).written, ?_⟩⟩
  · have hlog := follows_run (hempty.reportAll earlier) c source output
    refine ⟨?_, ?_, ?_, (hlog.reportAll later).written⟩
    · rw [run_eq_of_log, run_eq_of_log c source output (Sink.unlimited.reportAll earlier)]
    · rw [run_eq_of_log, run_eq_of_log c source output (Sink.unlimited.reportAll earlier)]
    · rw [run_eq_of_log, Sink.reportAll_append, Sink.reportAll_append,
        Sink.reportAll_of_room_none rfl, List.append_assoc]
      rfl
  · intro cuts hcuts
    exact Sink.foldl_writePieces_eq_reportAll limited hcuts

end

attribute [local instance] NationalDecoders.asciiOnly

/-- A log that ends within the first of two lines, and an output that ends within its first line. -/
theorem run_of_limited_log_exampleFormat :
    let c : Conversion := ⟨.exampleFormat, .default, Ofx.defaultAccountType⟩
    let output : Sink := .ofRoom (some 3) false
    let limited : Sink := .ofRoom (some 6) false
    let calls : List Diagnostic := [.echo "Source" "-", .info "x"]
    let cuts := [["Sou", "rce", ": ", "-\n"], ["x", "\n"]].map
      (List.map fun piece : String => Utf8.encode piece.toList)
    cuts.map List.flatten = calls.map Diagnostic.bytes ∧
      (c.run [] output (limited.reportAll calls)).result =
        (c.run [] output (Sink.unlimited.reportAll calls)).result ∧
      (cuts.foldl (fun sink pieces => (sink.writePieces pieces).2) limited).written =
        Utf8.encode "Source".toList := by
  intro c output limited calls cuts
  have hcuts : cuts.map List.flatten = calls.map Diagnostic.bytes := by decide
  obtain ⟨hrun, hcalls⟩ := run_of_limited_log c [] output 6 false
  refine ⟨hcuts, (hrun calls []).1, ?_⟩
  rw [(hcalls calls).2 cuts hcuts]
  decide

end Conversion

end BankStatement
