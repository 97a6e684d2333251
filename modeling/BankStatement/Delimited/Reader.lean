import BankStatement.Delimited.Row
import BankStatement.Source

/-!
# Reading rows from a source

A reader of rows takes bytes from a source as it needs them, keeps what it has taken and not yet
looked at, and gives one row at a time.  A byte order mark is dropped when the first read brings it
as a whole; a first read that brings the mark and nothing else counts as the end of the input.  Once
the input has ended or the source has failed there are no more rows.
-/

namespace BankStatement

/-- The rows of an input, and the failure that ended it. -/
structure RowReading where
  rows : List RawRow
  failure? : Option String
deriving DecidableEq, Repr

/-- One more row in front. -/
def RowReading.prepend (row : RawRow) (reading : RowReading) : RowReading :=
  { reading with rows := row :: reading.rows }

/-- A reader of rows.  `begun` says that it has looked at bytes of the source, and `ended` that it
gives no more rows. -/
structure RowReader where
  delimiter : UInt8
  source : Source
  buffer : List UInt8
  splitter : Splitter
  begun : Bool
  ended : Bool
deriving DecidableEq, Repr

namespace RowReader

/-- The most bytes that are taken from the source at once. -/
def readLimit : Nat := 8192

/-- A reader before its first row. -/
def ofSource (delimiter : UInt8) (source : Source) : RowReader where
  delimiter := delimiter
  source := source
  buffer := []
  splitter := .initial
  begun := false
  ended := false

/-- The reader with bytes in its buffer, unless the source is at its end. -/
def fill (r : RowReader) : Except String Unit × RowReader :=
  if r.buffer ≠ [] then (.ok (), r)
  else
    match r.source.read readLimit with
    | (.error message, source) => (.error message, { r with source, ended := true })
    | (.ok bytes, source) => (.ok (), { r with source, buffer := bytes })

/-- The bytes to look at next: those in the buffer, without a mark when they are the first. -/
def upcoming (r : RowReader) : List UInt8 :=
  match r.begun, r.buffer with
  | false, 0xef :: 0xbb :: 0xbf :: rest => rest
  | _, bytes => bytes

/-- The end of the input: it ends the current row, if there is one, and the rows otherwise. -/
def close (r : RowReader) : Option RawRow × RowReader :=
  match r.splitter.finish with
  | some row => (some row, { r with splitter := r.splitter.nextRow, buffer := [], begun := true })
  | none => (none, { r with buffer := [], begun := true, ended := true })

/-! ## What is left to do -/

/-- How many bytes and failures are still to come, those in the buffer included. -/
def size (r : RowReader) : Nat :=
  r.source.size + r.buffer.length

/-- A bound on the rows that are left.  A byte counts twice, since the last row of an input ends
without one. -/
def work (r : RowReader) : Nat :=
  2 * r.size + (decide (r.splitter.phase ≠ .betweenRows)).toNat

theorem size_fill (r : RowReader) :
    r.fill.2.size + (match r.fill.1 with
      | .ok _ => 0
      | .error _ => 1) = r.size := by
  unfold fill
  split
  · rfl
  · rename_i hempty
    have hread := Source.size_read readLimit r.source
    simp only [ne_eq, Decidable.not_not] at hempty
    split <;> rename_i htaken <;> rw [htaken] at hread <;> simp only [size, hempty] at hread ⊢
    · omega
    · simp only [List.length_nil]
      omega

theorem splitter_fill (r : RowReader) : r.fill.2.splitter = r.splitter := by
  unfold fill
  split
  · rfl
  · split <;> rfl

theorem length_upcoming_le (r : RowReader) : r.upcoming.length ≤ r.buffer.length := by
  unfold upcoming
  split
  · rename_i hbytes
    rw [hbytes]
    simp only [List.length_cons]
    omega
  · exact Nat.le_refl _

/-- The last row of an input ends without a byte. -/
theorem work_close_lt {r : RowReader} {row : RawRow} (h : r.close.1 = some row) :
    r.close.2.work < r.work := by
  unfold close at h ⊢
  split at h <;> rename_i hfinish
  · have hinside : r.splitter.phase ≠ .betweenRows := by
      intro hbetween
      simp [Splitter.finish, hbetween] at hfinish
    simp only [work, size, Splitter.nextRow, hinside, ne_eq, not_true_eq_false, decide_false,
      not_false_eq_true, decide_true, Bool.toNat_false, Bool.toNat_true, List.length_nil]
    omega
  · simp at h

theorem work_lt_of_size_lt {r other : RowReader} (h : r.size < other.size) :
    r.work < other.work := by
  have hlast : (decide (r.splitter.phase ≠ .betweenRows)).toNat ≤ 1 := Bool.toNat_le _
  simp only [work]
  omega

/-- The reader after looking at bytes, of which `buffer` is left. -/
def advance (r : RowReader) (splitter : Splitter) (buffer : List UInt8) : RowReader :=
  { r with splitter, buffer, begun := true }

theorem size_advance_lt {r filled : RowReader} {byte : UInt8} {rest : List UInt8}
    (hfill : r.fill = (.ok (), filled)) (hupcoming : filled.upcoming = byte :: rest) :
    (filled.advance (filled.splitter.readRow filled.delimiter (byte :: rest)).2.1
      (filled.splitter.readRow filled.delimiter (byte :: rest)).2.2).size < r.size := by
  have hsame := r.size_fill
  have hleft := Splitter.length_readRow_le filled.delimiter filled.splitter byte rest
  have hheld := filled.length_upcoming_le
  rw [hfill] at hsame
  rw [hupcoming, List.length_cons] at hheld
  simp only [size, advance] at hsame ⊢
  omega

/-! ## Reading -/

/-- The next row, or none when there are no more.  Bytes that end no row stay in the splitter, and
more are taken from the source. -/
def next (r : RowReader) : Except String (Option RawRow) × RowReader :=
  if r.ended then (.ok none, r)
  else
    match _hfill : r.fill with
    | (.error message, failed) => (.error message, failed)
    | (.ok _, filled) =>
        match _hupcoming : filled.upcoming with
        | [] => (.ok filled.close.1, filled.close.2)
        | byte :: rest =>
            match _hrow : filled.splitter.readRow filled.delimiter (byte :: rest) with
            | (some row, splitter, left) => (.ok (some row), filled.advance splitter left)
            | (none, splitter, left) => next (filled.advance splitter left)
termination_by r.size
decreasing_by simpa [_hrow] using size_advance_lt _hfill _hupcoming

/-- The reader after passing over some rows, or over all that there are. -/
def skip (r : RowReader) : Nat → Except String RowReader
  | 0 => .ok r
  | count + 1 =>
      match r.next with
      | (.error message, _) => .error message
      | (.ok none, after) => .ok after
      | (.ok (some _), after) => after.skip count

/-- A reader that gives a row has less to do. -/
theorem work_next_lt {r after : RowReader} {row : RawRow}
    (h : r.next = (.ok (some row), after)) : after.work < r.work := by
  fun_induction next r with
  | case1 => simp at h
  | case2 => simp at h
  | case3 r _ _ filled hfill =>
      simp only [Prod.mk.injEq, Except.ok.injEq] at h
      have hsame := r.size_fill
      have hsplitter := r.splitter_fill
      rw [hfill] at hsame hsplitter
      have hless := work_close_lt h.1
      rw [h.2] at hless
      simp only [work, ← hsame, ← hsplitter] at hless ⊢
      exact hless
  | case4 r _ _ filled hfill byte rest hupcoming _ splitter left hfound =>
      have hless := size_advance_lt hfill hupcoming
      simp only [hfound, Prod.mk.injEq, Except.ok.injEq] at hless h
      exact h.2 ▸ work_lt_of_size_lt hless
  | case5 r _ _ filled hfill byte rest hupcoming splitter left hfound ih =>
      have hless := size_advance_lt hfill hupcoming
      simp only [hfound] at hless
      exact Nat.lt_trans (ih h) (work_lt_of_size_lt hless)

/-- The rows that a reader gives from now on. -/
def rows (r : RowReader) : RowReading :=
  match _hnext : r.next with
  | (.error message, _) => ⟨[], some message⟩
  | (.ok none, _) => ⟨[], none⟩
  | (.ok (some row), after) => (rows after).prepend row
termination_by r.work
decreasing_by exact work_next_lt _hnext

end RowReader

end BankStatement
