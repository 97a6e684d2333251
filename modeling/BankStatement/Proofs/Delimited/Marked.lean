import BankStatement.Proofs.Delimited.Lines
import BankStatement.Proofs.Delimited.Transcoded

/-!
# Inputs with a byte order mark

A reader of rows drops a byte order mark only when its first read brings the whole of it, and it
takes a first read of the mark and nothing else for the end of the input.  So the rows of an input
that begins with a mark depend on how the source cuts it, though on its first read only.

## Strategy

`MarkRead` says what the first read brings of the mark, and `MarkRead.kept` which bytes are then
split into rows (`Feed.ofSource_of_marked`).  Sources with the same bytes have the same rows as soon
as their first reads bring the same of the mark, or there is no mark (`rows_ofSource_congr`).

This condition cannot be left out: a mark that comes alone ends the input before its first row,
while one that comes in parts is the beginning of the first field, so that there is a first row
(`exists_rows_ne`).
-/

namespace BankStatement

/-! ## The first read -/

/-- What the first read of a source brings of the mark with which the source begins: not all of it,
it and nothing else, or it and more. -/
inductive MarkRead where
  | part
  | alone
  | followed
deriving DecidableEq, Repr

namespace MarkRead

/-- What a read of so many bytes brings of a mark. -/
def ofLength (length : Nat) : MarkRead :=
  if length < utf8Mark.length then part
  else if length = utf8Mark.length then alone
  else followed

/-- What is split into rows of a mark and the bytes after it. -/
def kept (bytes : List UInt8) : MarkRead → List UInt8
  | part => utf8Mark ++ bytes
  | alone => []
  | followed => bytes

end MarkRead

/-- What the first read of a reader of rows brings of a mark. -/
def Source.markRead (source : Source) : MarkRead :=
  match source.read RowReader.readLimit with
  | (.ok got, _) => .ofLength got.length
  | (.error _, _) => .part

theorem Source.markRead_of_read {source rest : Source} {got : List UInt8}
    (h : source.read RowReader.readLimit = (.ok got, rest)) :
    source.markRead = .ofLength got.length := by
  unfold markRead
  rw [h]

namespace Feed

/-- What is dropped of an input is a mark at its start, or everything. -/
theorem exists_mark_ofSource (source : Source) :
    (ofSource source).bytes = [] ∨ ∃ mark, (mark = [] ∨ mark = utf8Mark) ∧
      (ofDeliveries source).bytes = mark ++ (ofSource source).bytes := by
  unfold ofSource
  split
  · exact .inl rfl
  · next hread =>
    refine .inr ⟨utf8Mark, .inr rfl, ?_⟩
    rw [ofDeliveries_read hread]
    rfl
  · exact .inr ⟨[], .inl rfl, rfl⟩

/-- What is kept of an input with a mark. -/
theorem ofSource_of_marked {source : Source} (hsource : source.NeverFails) {bytes : List UInt8}
    (hbytes : source.bytes = utf8Mark ++ bytes) :
    ofSource source = ⟨source.markRead.kept bytes, none⟩ := by
  obtain ⟨got, rest, hread, hrest⟩ := hsource.read RowReader.readLimit
  have hcut : utf8Mark ++ bytes = got ++ rest.bytes := by
    rw [← hbytes, Source.bytes_read hread]
  rw [Source.markRead_of_read hread]
  rcases List.append_eq_append_iff.mp hcut with ⟨first, hgot, hfirst⟩ | ⟨left, hmark, hleft⟩
  -- the first read brings the whole mark
  · cases first with
    | nil =>
        rw [List.append_nil] at hgot
        subst hgot
        unfold ofSource
        rw [hread]
        rfl
    | cons byte more =>
        have hlength : MarkRead.ofLength got.length = .followed := by
          rw [hgot]
          simp [MarkRead.ofLength]
        rw [hlength, hfirst]
        unfold ofSource
        rw [hread, hgot]
        exact congrArg (prepend (byte :: more)) (ofDeliveries_of_neverFails hrest)
  · cases left with
    | nil =>
        rw [List.append_nil] at hmark
        subst hmark
        unfold ofSource
        rw [hread]
        rfl
    | cons byte more =>
        have hshort : got.length < utf8Mark.length := by
          rw [hmark]
          simp
        have hlength : MarkRead.ofLength got.length = .part := if_pos hshort
        rw [hlength, MarkRead.kept, ← hbytes, ← ofDeliveries_of_neverFails hsource]
        unfold ofSource
        rw [hread]
        -- so short a read begins with no mark
        split
        · next heq =>
          cases heq
          exact absurd hshort (by simp [utf8Mark])
        · next heq =>
          cases heq
          exact absurd hshort (by simp [utf8Mark])
        · rfl

end Feed

/-! ## Rows of sources with the same bytes -/

namespace RowReader

/-- The rows of an input with a mark are those of what is kept of it. -/
theorem rows_ofSource_of_marked (delimiter : UInt8) {source : Source} (hsource : source.NeverFails)
    {bytes : List UInt8} (hbytes : source.bytes = utf8Mark ++ bytes) :
    (ofSource delimiter source).rows =
      ⟨Splitter.initial.rowsFrom delimiter (source.markRead.kept bytes), none⟩ := by
  rw [rows_ofSource, Feed.ofSource_of_marked hsource hbytes]
  rfl

/-- Sources with the same bytes have the same rows, when their first reads bring the same of a mark
with which these bytes begin. -/
theorem rows_ofSource_congr (delimiter : UInt8) {source other : Source}
    (hsource : source.NeverFails) (hother : other.NeverFails) (hbytes : source.bytes = other.bytes)
    (hmark : utf8Mark <+: source.bytes → source.markRead = other.markRead) :
    (ofSource delimiter source).rows = (ofSource delimiter other).rows := by
  by_cases hmarked : utf8Mark <+: source.bytes
  · obtain ⟨bytes, hcut⟩ := hmarked
    rw [rows_ofSource_of_marked delimiter hsource hcut.symm,
      rows_ofSource_of_marked delimiter hother (hbytes.symm.trans hcut.symm),
      hmark ⟨bytes, hcut⟩]
  · have hunmarked : ¬ utf8Mark <+: other.bytes := by rwa [← hbytes]
    rw [rows_ofSource_of_unmarked delimiter hsource hmarked,
      rows_ofSource_of_unmarked delimiter hother hunmarked, hbytes]

end RowReader

/-! ## Marks that are cut -/

/-- What the first read of a source in pieces brings. -/
theorem Source.read_ofBytes {count limit : Nat} (hpositive : 0 < count) (hcount : count ≤ limit)
    {bytes : List UInt8} (hbytes : bytes ≠ []) (following : Source) :
    ∃ rest, (ofBytes count bytes following).read limit = (.ok (bytes.take count), rest) := by
  obtain ⟨head, tail, rfl⟩ := List.exists_cons_of_ne_nil hbytes
  have hpiece : head :: tail.take (count - 1) = (head :: tail).take count := by
    rw [← List.take_succ_cons, Nat.sub_add_cancel hpositive]
  have hwhole : (head :: tail.take (count - 1)).drop limit = [] := by
    rw [hpiece, List.drop_eq_nil_iff, List.length_take]
    omega
  refine ⟨ofBytes count (tail.drop (count - 1)) following, ?_⟩
  rw [ofBytes, if_neg (by omega)]
  simp only [read, hwhole]
  rw [hpiece]

/-- Few bytes are delivered in one piece. -/
theorem Source.ofBytes_of_le {limit : Nat} {head : UInt8} {tail : List UInt8}
    (h : (head :: tail).length ≤ limit) : ofBytes limit (head :: tail) [] = [.bytes head tail] := by
  rw [List.length_cons] at h
  rw [ofBytes, if_neg (by omega), List.take_of_length_le (by omega),
    List.drop_of_length_le (by omega), ofBytes]

theorem Source.markRead_ofBytes {count : Nat} (hpositive : 0 < count)
    (hcount : count ≤ RowReader.readLimit) {bytes : List UInt8} (hbytes : bytes ≠ [])
    (following : Source) :
    (ofBytes count bytes following).markRead = .ofLength (min count bytes.length) := by
  obtain ⟨rest, hread⟩ := read_ofBytes hpositive hcount hbytes following
  rw [markRead_of_read hread, List.length_take]

/-- Every input that begins with a mark can be cut in two ways that give different rows: none when
the mark comes alone, and some when its bytes come one by one. -/
theorem RowReader.exists_rows_ne {delimiter : UInt8} (hdelimiter : delimiter.toNat < 0x80)
    {bytes : List UInt8} (hmark : utf8Mark <+: bytes) :
    ∃ alone parts : Source, alone.NeverFails ∧ parts.NeverFails ∧ alone.bytes = bytes ∧
      parts.bytes = bytes ∧ (ofSource delimiter alone).rows.rows = [] ∧
      (ofSource delimiter parts).rows.rows ≠ [] := by
  obtain ⟨text, rfl⟩ := hmark
  have hnever : Source.NeverFails [] := by simp [Source.NeverFails]
  have hsame : ∀ {count : Nat}, 0 < count →
      (Source.ofBytes count (utf8Mark ++ text) []).bytes = utf8Mark ++ text := by
    intro count hpositive
    rw [Source.bytes_ofBytes hpositive, Source.bytes_nil, List.append_nil]
  have hlength : 3 ≤ (utf8Mark ++ text).length := by simp [utf8Mark]
  have hne : utf8Mark ++ text ≠ [] := List.cons_ne_nil _ _
  refine ⟨.ofBytes 3 (utf8Mark ++ text) [], .ofBytes 1 (utf8Mark ++ text) [],
    Source.neverFails_ofBytes 3 _ hnever, Source.neverFails_ofBytes 1 _ hnever, hsame (by decide),
    hsame (by decide), ?_, ?_⟩
  · have hread : (Source.ofBytes 3 (utf8Mark ++ text) []).markRead = .alone := by
      rw [Source.markRead_ofBytes (by decide) (by decide) hne, Nat.min_eq_left hlength]
      rfl
    rw [rows_ofSource_of_marked delimiter (Source.neverFails_ofBytes 3 _ hnever)
      (hsame (by decide)), hread]
    rfl
  · have hread : (Source.ofBytes 1 (utf8Mark ++ text) []).markRead = .part := by
      rw [Source.markRead_ofBytes (by decide) (by decide) hne,
        Nat.min_eq_left (by omega)]
      rfl
    rw [rows_ofSource_of_marked delimiter (Source.neverFails_ofBytes 1 _ hnever)
      (hsame (by decide)), hread]
    -- the first byte of the mark goes into the first field
    have hbegins : Splitter.initial.step delimiter 0xef =
        (Splitter.initial.push .plain 0xef, none) :=
      Splitter.step_upper hdelimiter (by decide) .initial
    have hplain : (Splitter.initial.push .plain 0xef).phase ≠ .betweenRows := by
      simp [Splitter.push]
    show Splitter.initial.rowsFrom delimiter (0xef :: _) ≠ []
    rw [Splitter.rowsFrom_cons_of_no_row hbegins]
    exact Splitter.rowsFrom_ne_nil hplain _

end BankStatement
