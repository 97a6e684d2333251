import BankStatement.Conversion.Run

/-!
# Writing in pieces is writing at once

A document is written line by line, and each line in pieces, to a sink that may run out of room at
any byte.  `Sink.write_append` joins two pieces; here it joins all of them, so that how a text was
cut into pieces leaves no trace in the sink or in the result.
-/

namespace BankStatement

namespace Sink

@[simp] theorem write_nil (sink : Sink) : sink.write [] = (.ok (), sink) := by
  cases sink with
  | mk written room flushFails => cases room <;> simp [write]

theorem writePieces_eq_write (sink : Sink) (pieces : List (List UInt8)) :
    sink.writePieces pieces = sink.write pieces.flatten := by
  induction pieces generalizing sink with
  | nil => simp [writePieces]
  | cons piece rest ih =>
      rw [writePieces, List.flatten_cons, write_append]
      match sink.write piece with
      | (.ok _, next) => exact ih next
      | (.error reason, next) => rfl

theorem flatten_linePieces (lines : List String) :
    (lines.flatMap linePieces).flatten =
      Utf8.encode (String.join (lines.map (· ++ "\n"))).toList := by
  rw [String.toList_join]
  induction lines with
  | nil => rfl
  | cons line rest ih => simp [linePieces, ih, Utf8.encode_cons]

/-- Lines arrive in a sink as the text that they make up. -/
theorem writeLines_eq_write (sink : Sink) (lines : List String) :
    sink.writeLines lines =
      sink.write (Utf8.encode (String.join (lines.map (· ++ "\n"))).toList) := by
  rw [writeLines, writePieces_eq_write, flatten_linePieces]

theorem info_eq_write (sink : Sink) (message : String) :
    sink.info message = (sink.write (Utf8.encode (message ++ "\n").toList)).2 := by
  rw [info, writeLines_eq_write]
  simp

/-! ## How much has room -/

theorem write_of_fits (sink : Sink) (bytes : List UInt8)
    (h : ∀ room, sink.room = some room → bytes.length ≤ room) :
    ∃ after, sink.write bytes = (.ok (), after) ∧ after.written = sink.written ++ bytes ∧
      after.flushFails = sink.flushFails := by
  cases hroom : sink.room with
  | none => exact ⟨{ sink with written := sink.written ++ bytes }, by simp [write, hroom], rfl, rfl⟩
  | some room =>
      refine ⟨{ sink with
        written := sink.written ++ bytes, room := some (room - bytes.length) }, ?_, rfl, rfl⟩
      simp [write, hroom, h room hroom]

theorem write_of_short (sink : Sink) (bytes : List UInt8) {room : Nat}
    (hroom : sink.room = some room) (h : room < bytes.length) :
    ∃ after, sink.write bytes = (.error writeFailure, after) ∧
      after.written = sink.written ++ bytes.take room := by
  refine ⟨{ sink with written := sink.written ++ bytes.take room, room := some 0 }, ?_, rfl⟩
  simp [write, hroom, Nat.not_le.mpr h]

@[simp] theorem write_unlimited (bytes : List UInt8) :
    unlimited.write bytes = (.ok (), { unlimited with written := bytes }) := by
  simp [write, unlimited, ofRoom]

end Sink

/-! ## What a conversion writes -/

namespace Conversion

/-- The bytes of a statement as it is written. -/
def rendering (c : Conversion) (statement : Statement) : List UInt8 :=
  Utf8.encode (Ofx.render c.accountType statement).toList

/-- The bytes of the line that is logged about a statement. -/
def summaryLine (statement : Statement) : List UInt8 :=
  Utf8.encode (statement.summary ++ "\n").toList

theorem writeLines_lines (c : Conversion) (statement : Statement) (output : Sink) :
    output.writeLines (Ofx.lines c.accountType statement) =
      output.write (c.rendering statement) := by
  rw [Sink.writeLines_eq_write, rendering, Ofx.render]

theorem info_summary_unlimited (statement : Statement) :
    Sink.unlimited.info statement.summary =
      { Sink.unlimited with written := summaryLine statement } := by
  rw [Sink.info_eq_write, Sink.write_unlimited, summaryLine]

end Conversion

end BankStatement
