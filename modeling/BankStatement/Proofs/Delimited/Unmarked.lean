import BankStatement.Conversion.Run
import BankStatement.Proofs.Delimited.Reader

/-!
# Inputs without a byte order mark

An input that never fails and does not begin with a byte order mark is nothing but its bytes: no
byte is dropped at the start and none is cut off at the end, however the source delivers them.  Its
rows are a function of these bytes (`rows_ofSource_of_unmarked`), and that is the form in which the
splitter's laws are stated.
-/

namespace BankStatement

/-! ## Splitting in two parts -/

namespace Splitter

@[simp] theorem run_nil (delimiter : UInt8) (s : Splitter) : s.run delimiter [] = ([], s) := rfl

theorem run_cons (delimiter : UInt8) (s : Splitter) (byte : UInt8) (rest : List UInt8) :
    s.run delimiter (byte :: rest) =
      ((s.step delimiter byte).2.toList ++ ((s.step delimiter byte).1.run delimiter rest).1,
        ((s.step delimiter byte).1.run delimiter rest).2) := rfl

/-- Splitting can stop and go on anywhere. -/
theorem run_concat (delimiter : UInt8) (s : Splitter) (first second : List UInt8) :
    s.run delimiter (first ++ second) =
      ((s.run delimiter first).1 ++ ((s.run delimiter first).2.run delimiter second).1,
        ((s.run delimiter first).2.run delimiter second).2) := by
  induction first generalizing s with
  | nil => rfl
  | cons byte rest ih =>
      rw [List.cons_append, run_cons, ih, run_cons]
      simp only [List.append_assoc]

/-- A byte that ends no row. -/
theorem run_cons_of_no_row {delimiter byte : UInt8} {s next : Splitter}
    (h : s.step delimiter byte = (next, none)) (rest : List UInt8) :
    s.run delimiter (byte :: rest) = next.run delimiter rest := by
  rw [run_cons, h]
  rfl

/-- A byte that ends a row. -/
theorem run_cons_of_row {delimiter byte : UInt8} {s next : Splitter} {row : RawRow}
    (h : s.step delimiter byte = (next, some row)) (rest : List UInt8) :
    s.run delimiter (byte :: rest) =
      (row :: (next.run delimiter rest).1, (next.run delimiter rest).2) := by
  rw [run_cons, h]
  rfl

end Splitter

/-! ## The whole input -/

/-- The mark with which an input in UTF-8 may begin. -/
def utf8Mark : List UInt8 := [0xef, 0xbb, 0xbf]

namespace Feed

theorem ofDeliveries_of_neverFails {source : Source} (h : source.NeverFails) :
    ofDeliveries source = ⟨source.bytes, none⟩ := by
  induction source with
  | nil => rfl
  | cons delivery rest ih =>
      have hrest : Source.NeverFails rest := fun message hmem =>
        h message (List.mem_cons_of_mem _ hmem)
      cases delivery with
      | failure message => exact absurd (List.mem_cons_self ..) (h message)
      | bytes head tail =>
          rw [ofDeliveries, ih hrest]
          rfl

/-- Without a mark, nothing is dropped. -/
theorem ofSource_of_unmarked {source : Source} (h : ¬ utf8Mark <+: source.bytes) :
    ofSource source = ofDeliveries source := by
  -- a first read that began with the mark would show it at the start of the input
  have hunmarked : ∀ (first : List UInt8) {rest : Source},
      source.read RowReader.readLimit = (.ok (utf8Mark ++ first), rest) → False := by
    intro first rest hread
    apply h
    rw [Source.bytes_read hread, List.append_assoc]
    exact List.prefix_append ..
  unfold ofSource
  split
  · next hread => exact (hunmarked [] hread).elim
  · next hread => exact (hunmarked _ hread).elim
  · rfl

end Feed

namespace RowReader

/-- The rows of an input without a mark are those of its bytes. -/
theorem rows_ofSource_of_unmarked (delimiter : UInt8) {source : Source}
    (hsource : source.NeverFails) (hmark : ¬ utf8Mark <+: source.bytes) :
    (ofSource delimiter source).rows =
      ⟨((Splitter.initial.run delimiter source.bytes).1 ++
        (Splitter.initial.run delimiter source.bytes).2.finish.toList), none⟩ := by
  rw [rows_ofSource, Feed.ofSource_of_unmarked hmark, Feed.ofDeliveries_of_neverFails hsource]
  rfl

end RowReader

/-- The rows of a source, in a format that is read as UTF-8. -/
theorem Format.readRows_of_utf8 [NationalDecoders] (format : Format) {delimiter : UInt8}
    (hdelimiter : delimiterByte format.delimiter = .ok delimiter)
    (hencoding : Encoding.resolve format.encodingLabel = .ok none) (source : Source) :
    format.readRows source = .ok (RowReader.ofSource delimiter source).rows := by
  have hdialect : format.dialect = .ok ⟨delimiter, none⟩ := by
    unfold dialect
    rw [hdelimiter]
    simp only [hencoding]
  unfold readRows rowReader
  rw [hdialect]
  rfl

end BankStatement
