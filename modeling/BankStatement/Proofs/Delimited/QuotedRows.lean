import BankStatement.Proofs.Delimited.Unmarked
import BankStatement.Proofs.Text.Utf8

/-!
# Quoted rows read back

A writer of rows that quotes everything: each field stands between quotes, a quote inside it is
written twice, the delimiter stands between fields, and each row ends with one of the three line
ends.  Reading what it writes gives the rows it was given (`readRows_written`).

## Strategy

* Between quotes no byte ends a field or a row, not even a line feed: the only byte with a meaning
  there is the quote, and a doubled one goes through `quoteSeen` and comes back (`run_quotedBytes`).
* The byte after the closing quote decides.  A delimiter begins the next field and a line end the
  next row, because a delimiter is neither a quote nor a line end; this is all that is asked of it
  (`Separates`).
* The line feed of a line end of two bytes finds the splitter between rows and is passed over
  (`run_lineEnd`).

Rows are joined by induction over fields (`run_fieldBytes`) and then over rows (`run_rowBytes`).
The lines on which the splitter stands on the way do not matter, so states are described by what
they hold and not by their line.
-/

namespace BankStatement.QuotedRows

/-! ## Writing -/

/-- What ends a row. -/
inductive LineEnd where
  | lineFeed
  | carriageReturn
  | both
deriving DecidableEq, Repr

def LineEnd.bytes : LineEnd → List UInt8
  | lineFeed => [Splitter.lineFeed]
  | carriageReturn => [Splitter.carriageReturn]
  | both => [Splitter.carriageReturn, Splitter.lineFeed]

/-- Bytes between quotes: a quote among them is written twice. -/
def quotedBytes (field : List UInt8) : List UInt8 :=
  field.flatMap fun byte => if byte = Splitter.quote then [byte, byte] else [byte]

/-- The fields of a row, each in quotes, with the delimiter between them. -/
def fieldBytes (delimiter : UInt8) : List (List UInt8) → List UInt8
  | [] => []
  | [field] => Splitter.quote :: quotedBytes field ++ [Splitter.quote]
  | field :: next :: rest =>
      Splitter.quote :: quotedBytes field ++ Splitter.quote :: delimiter ::
        fieldBytes delimiter (next :: rest)

/-- Rows, each with its line end. -/
def rowBytes (delimiter : UInt8) (rows : List (List (List UInt8) × LineEnd)) : List UInt8 :=
  rows.flatMap fun row => fieldBytes delimiter row.1 ++ row.2.bytes

/-! ## Delimiters -/

/-- A byte that is neither a quote nor a line end. -/
def Separates (delimiter : UInt8) : Prop :=
  delimiter ≠ Splitter.quote ∧ Splitter.isLineEnd delimiter = false

/-- Every delimiter that a format may have separates. -/
theorem separates_of_delimiterByte {c : Char} {delimiter : UInt8}
    (h : delimiterByte c = .ok delimiter) : Separates delimiter := by
  unfold delimiterByte at h
  split at h
  · cases h
  · rename_i hallowed
    split at h
    · rename_i hascii
      cases h
      -- the byte of an ASCII character is that of `x` only when the character is `x`
      have hne : ∀ x : Char, x.toNat < 0x80 → c ≠ x →
          UInt8.ofNat c.toNat ≠ UInt8.ofNat x.toNat := by
        intro x hx hcx heq
        apply hcx
        apply Char.toNat_inj.mp
        have hbytes := congrArg UInt8.toNat heq
        rw [Utf8.toNat_ofNat_of_lt (by omega), Utf8.toNat_ofNat_of_lt (by omega)] at hbytes
        exact hbytes
      obtain ⟨hquote, hfeed, hreturn⟩ : c ≠ '"' ∧ c ≠ '\n' ∧ c ≠ '\r' := by
        simpa only [not_or] using hallowed
      refine ⟨hne '"' (by decide) hquote, ?_⟩
      have hf : UInt8.ofNat c.toNat ≠ Splitter.lineFeed := hne '\n' (by decide) hfeed
      have hr : UInt8.ofNat c.toNat ≠ Splitter.carriageReturn := hne '\r' (by decide) hreturn
      simp [Splitter.isLineEnd, hf, hr]
    · cases h

/-! ## Splitting what was written -/

variable {delimiter : UInt8}

/-- Counting lines changes nothing but the line. -/
theorem countLine_eq (s : Splitter) (byte : UInt8) :
    ∃ line, s.countLine byte = { s with line } := by
  unfold Splitter.countLine
  split
  · exact ⟨_, rfl⟩
  · exact ⟨s.line, rfl⟩

/-- Bytes between quotes go into the field. -/
theorem run_quotedBytes (delimiter : UInt8) (field : List UInt8) {s : Splitter}
    (hphase : s.phase = .quoted) :
    ∃ line, s.run delimiter (quotedBytes field) =
      ([], { s with field := field.reverse ++ s.field, line }) := by
  induction field generalizing s with
  | nil => exact ⟨s.line, rfl⟩
  | cons byte rest ih =>
      obtain ⟨first, hfirst⟩ := countLine_eq s byte
      have hcons : quotedBytes (byte :: rest) =
          (if byte = Splitter.quote then [byte, byte] else [byte]) ++ quotedBytes rest := rfl
      rw [hcons]
      by_cases hquote : byte = Splitter.quote
      -- the first quote may end the field, and the second one shows that it does not
      · have hopen : s.step delimiter byte = ({ s with phase := .quoteSeen }, none) := by
          simp [Splitter.step, Splitter.countLine, hphase, hquote, Splitter.quote,
            Splitter.lineFeed]
        have hback : ({ s with phase := .quoteSeen } : Splitter).step delimiter byte =
            ({ s with phase := .quoted, field := byte :: s.field }, none) := by
          simp [Splitter.step, Splitter.countLine, hquote, Splitter.quote, Splitter.lineFeed,
            Splitter.push]
        obtain ⟨line, hrest⟩ :=
          ih (s := { s with phase := .quoted, field := byte :: s.field }) rfl
        refine ⟨line, ?_⟩
        rw [if_pos hquote, List.cons_append, Splitter.run_cons_of_no_row hopen, List.cons_append,
          Splitter.run_cons_of_no_row hback, List.nil_append, hrest]
        simp [hphase]
      · have hstep : s.step delimiter byte =
            ({ s with field := byte :: s.field, line := first }, none) := by
          simp [Splitter.step, hfirst, hphase, hquote, Splitter.push]
        obtain ⟨line, hrest⟩ :=
          ih (s := { s with field := byte :: s.field, line := first }) hphase
        refine ⟨line, ?_⟩
        rw [if_neg hquote, List.singleton_append, Splitter.run_cons_of_no_row hstep, hrest]
        simp

/-- Where a field may begin: nothing of it has been read. -/
def AtFieldStart (s : Splitter) : Prop :=
  (s.phase = .betweenRows ∨ s.phase = .fieldStart) ∧ s.field = []

/-- A field in quotes, up to its closing quote. -/
theorem run_quotedField (delimiter : UInt8) (field : List UInt8) {s : Splitter}
    (hstart : AtFieldStart s) :
    ∃ line, s.run delimiter (Splitter.quote :: quotedBytes field ++ [Splitter.quote]) =
      ([], { s with phase := .quoteSeen, field := field.reverse, line }) := by
  obtain ⟨hphase, hfield⟩ := hstart
  have hopen : s.step delimiter Splitter.quote = ({ s with phase := .quoted }, none) := by
    rcases hphase with hphase | hphase <;>
      simp [Splitter.step, Splitter.countLine, hphase, Splitter.fieldStartByte,
        Splitter.isLineEnd, Splitter.quote, Splitter.lineFeed, Splitter.carriageReturn]
  obtain ⟨line, hrun⟩ :=
    run_quotedBytes delimiter field (s := { s with phase := .quoted }) rfl
  refine ⟨line, ?_⟩
  have hclose : ({ s with phase := .quoted, field := field.reverse ++ s.field, line } :
        Splitter).step delimiter Splitter.quote =
      ({ s with phase := .quoteSeen, field := field.reverse, line }, none) := by
    simp [Splitter.step, Splitter.countLine, Splitter.quote, Splitter.lineFeed, hfield]
  rw [List.cons_append, Splitter.run_cons_of_no_row hopen, Splitter.run_concat, hrun,
    List.nil_append, Splitter.run_cons_of_no_row hclose, Splitter.run_nil]

/-- After a closing quote the delimiter begins the next field. -/
theorem step_delimiter (hdelimiter : Separates delimiter) {s : Splitter}
    (hphase : s.phase = .quoteSeen) : s.step delimiter delimiter = (s.nextField, none) := by
  obtain ⟨hquote, hline⟩ := hdelimiter
  have hfeed : delimiter ≠ Splitter.lineFeed := by
    rintro rfl
    cases hline
  simp [Splitter.step, Splitter.countLine, hfeed, hphase, hquote, Splitter.fieldByte]

/-- The fields of a row, up to the closing quote of the last one. -/
theorem run_fieldBytes (hdelimiter : Separates delimiter) {fields : List (List UInt8)}
    (hfields : fields ≠ []) {s : Splitter} (hstart : AtFieldStart s) :
    ∃ last, s.run delimiter (fieldBytes delimiter fields) = ([], last) ∧
      last.phase = .quoteSeen ∧ last.row.fields = s.fields.reverse ++ fields := by
  induction fields generalizing s with
  | nil => exact absurd rfl hfields
  | cons field rest ih =>
      obtain ⟨line, hfield⟩ := run_quotedField delimiter field hstart
      cases rest with
      | nil => exact ⟨_, hfield, rfl, by simp [Splitter.row]⟩
      | cons next more =>
          let closed : Splitter := { s with phase := .quoteSeen, field := field.reverse, line }
          have hnext : AtFieldStart closed.nextField := ⟨.inr rfl, rfl⟩
          obtain ⟨last, hlast, hphase, hrow⟩ := ih (List.cons_ne_nil _ _) hnext
          refine ⟨last, ?_, hphase, ?_⟩
          · have hbytes : fieldBytes delimiter (field :: next :: more) =
                (Splitter.quote :: quotedBytes field ++ [Splitter.quote]) ++
                  delimiter :: fieldBytes delimiter (next :: more) := by
              simp [fieldBytes]
            rw [hbytes, Splitter.run_concat, hfield,
              Splitter.run_cons_of_no_row (step_delimiter (s := closed) hdelimiter rfl), hlast]
            rfl
          · rw [hrow]
            simp [closed, Splitter.nextField]

/-- Between rows the splitter holds nothing of a row. -/
def BetweenRows (s : Splitter) : Prop :=
  s.phase = .betweenRows ∧ s.field = [] ∧ s.fields = []

/-- A line end gives the row and leaves the splitter between rows. -/
theorem run_lineEnd (hdelimiter : Separates delimiter) (lineEnd : LineEnd) {s : Splitter}
    (hphase : s.phase = .quoteSeen) :
    ∃ row after, s.run delimiter lineEnd.bytes = ([row], after) ∧ row.fields = s.row.fields ∧
      BetweenRows after := by
  -- the byte that ends the row
  have hend : ∀ byte : UInt8, Splitter.isLineEnd byte = true → ∃ row after,
      s.step delimiter byte = (after, some row) ∧ row.fields = s.row.fields ∧
        BetweenRows after := by
    intro byte hbyte
    obtain ⟨line, hline⟩ := countLine_eq s byte
    have hquote : byte ≠ Splitter.quote := by
      rintro rfl
      cases hbyte
    have hother : byte ≠ delimiter := by
      rintro rfl
      rw [hdelimiter.2] at hbyte
      cases hbyte
    refine ⟨({ s with line } : Splitter).row, ({ s with line } : Splitter).nextRow, ?_, rfl, rfl,
      rfl, rfl⟩
    simp [Splitter.step, hline, hphase, hquote, Splitter.fieldByte, hother, hbyte]
  cases lineEnd with
  | lineFeed =>
      obtain ⟨row, after, hstep, hrow, hafter⟩ := hend Splitter.lineFeed rfl
      exact ⟨row, after, Splitter.run_cons_of_row hstep [], hrow, hafter⟩
  | carriageReturn =>
      obtain ⟨row, after, hstep, hrow, hafter⟩ := hend Splitter.carriageReturn rfl
      exact ⟨row, after, Splitter.run_cons_of_row hstep [], hrow, hafter⟩
  | both =>
      obtain ⟨row, after, hstep, hrow, hphase', hfield, hfields⟩ :=
        hend Splitter.carriageReturn rfl
      -- the line feed belongs to no row
      have hfeed : after.step delimiter Splitter.lineFeed =
          ({ after with line := after.line + 1 }, none) := by
        simp [Splitter.step, Splitter.countLine, hphase', Splitter.isLineEnd]
      refine ⟨row, { after with line := after.line + 1 }, ?_, hrow, hphase', hfield, hfields⟩
      rw [LineEnd.bytes, Splitter.run_cons_of_row hstep, Splitter.run_cons_of_no_row hfeed]
      rfl

/-- What was written splits into the rows it was written from. -/
theorem run_rowBytes (hdelimiter : Separates delimiter)
    {rows : List (List (List UInt8) × LineEnd)} (hrows : ∀ row ∈ rows, row.1 ≠ [])
    {s : Splitter} (hs : BetweenRows s) :
    (s.run delimiter (rowBytes delimiter rows)).1.map (·.fields) = rows.map (·.1) ∧
      BetweenRows (s.run delimiter (rowBytes delimiter rows)).2 := by
  induction rows generalizing s with
  | nil => exact ⟨rfl, hs⟩
  | cons row rest ih =>
      obtain ⟨hrow, hrest⟩ := List.forall_mem_cons.mp hrows
      obtain ⟨last, hlast, hphase, hfields⟩ :=
        run_fieldBytes hdelimiter hrow (s := s) ⟨.inl hs.1, hs.2.1⟩
      obtain ⟨read, after, hend, hread, hafter⟩ := run_lineEnd hdelimiter row.2 hphase
      have hbytes : rowBytes delimiter (row :: rest) =
          fieldBytes delimiter row.1 ++ (row.2.bytes ++ rowBytes delimiter rest) := by
        simp [rowBytes]
      obtain ⟨hsplit, hdone⟩ := ih hrest hafter
      rw [hbytes, Splitter.run_concat, hlast, Splitter.run_concat, hend]
      refine ⟨?_, hdone⟩
      rw [List.nil_append, List.singleton_append, List.map_cons, List.map_cons, hsplit, hread,
        hfields, hs.2.2, List.reverse_nil, List.nil_append]

/-! ## Reading what was written -/

/-- What was written begins with a quote, and so with no mark. -/
theorem not_utf8Mark_prefix_rowBytes {rows : List (List (List UInt8) × LineEnd)}
    (hrows : ∀ row ∈ rows, row.1 ≠ []) : ¬ utf8Mark <+: rowBytes delimiter rows := by
  cases rows with
  | nil => exact fun hprefix => nomatch List.prefix_nil.mp hprefix
  | cons row rest =>
      obtain ⟨hrow, _⟩ := List.forall_mem_cons.mp hrows
      obtain ⟨more, hmore⟩ : ∃ more, rowBytes delimiter (row :: rest) = Splitter.quote :: more := by
        obtain ⟨fields, lineEnd⟩ := row
        match fields with
        | [] => exact absurd rfl hrow
        | [_] => exact ⟨_, rfl⟩
        | _ :: _ :: _ => exact ⟨_, rfl⟩
      rw [hmore]
      intro hprefix
      have hhead := (List.cons_prefix_cons.mp hprefix).1
      revert hhead
      decide

/-- **Quoted rows read back exactly.**  Whatever bytes the fields hold, however many fields the rows
have, whichever line end each row has and however the source cuts its reads, a format with a usable
delimiter that is read as UTF-8 gives the rows that were written, and no other. -/
theorem readRows_written [NationalDecoders] (format : Format) {delimiter : UInt8}
    (hdelimiter : delimiterByte format.delimiter = .ok delimiter)
    (hencoding : Encoding.resolve format.encodingLabel = .ok none)
    {rows : List (List (List UInt8) × LineEnd)} (hrows : ∀ row ∈ rows, row.1 ≠ [])
    {source : Source} (hsource : source.NeverFails)
    (hbytes : source.bytes = rowBytes delimiter rows) :
    ∃ reading, format.readRows source = .ok reading ∧
      reading.rows.map (·.fields) = rows.map (·.1) ∧ reading.failure? = none := by
  have hmark : ¬ utf8Mark <+: source.bytes := by
    rw [hbytes]
    exact not_utf8Mark_prefix_rowBytes hrows
  obtain ⟨hsplit, hdone⟩ := run_rowBytes (separates_of_delimiterByte hdelimiter) hrows
    (s := .initial) ⟨rfl, rfl, rfl⟩
  refine ⟨_, Format.readRows_of_utf8 format hdelimiter hencoding source, ?_, ?_⟩
  · rw [RowReader.rows_ofSource_of_unmarked delimiter hsource hmark, hbytes]
    simp only [Splitter.finish, hdone.1, if_true, Option.toList_none, List.append_nil]
    exact hsplit
  · rw [RowReader.rows_ofSource_of_unmarked delimiter hsource hmark]

attribute [local instance] NationalDecoders.asciiOnly

/-- Rows of different lengths with delimiters, quotes, line ends and bytes that are no text in their
fields, read one byte at a time. -/
theorem readRows_written_ragged :
    let rows : List (List (List UInt8) × LineEnd) :=
      [([[0x3b, 0x22, 0x22], [0x0d, 0x0a]], .both), ([[]], .carriageReturn),
        ([[0xff], [], [0x22, 0x0a]], .lineFeed)]
    let source := Source.ofBytes 1 (rowBytes 0x3b rows) []
    delimiterByte Format.exampleFormat.delimiter = .ok 0x3b ∧
      Encoding.resolve Format.exampleFormat.encodingLabel = .ok none ∧
      (∀ row ∈ rows, row.1 ≠ []) ∧ source.NeverFails ∧ source.bytes = rowBytes 0x3b rows ∧
      ∃ reading, Format.exampleFormat.readRows source = .ok reading ∧
        reading.rows.map (·.fields) = rows.map (·.1) ∧ reading.failure? = none := by
  intro rows source
  have hdelimiter : delimiterByte Format.exampleFormat.delimiter = .ok 0x3b := rfl
  have hrows : ∀ row ∈ rows, row.1 ≠ [] := by decide
  have hsource : source.NeverFails := Source.neverFails_ofBytes 1 _ (by simp [Source.NeverFails])
  have hbytes : source.bytes = rowBytes 0x3b rows := by
    rw [Source.bytes_ofBytes Nat.one_pos, Source.bytes_nil, List.append_nil]
  exact ⟨hdelimiter, rfl, hrows, hsource, hbytes,
    readRows_written .exampleFormat hdelimiter rfl hrows hsource hbytes⟩

end BankStatement.QuotedRows
