import BankStatement.Proofs.Delimited.Unmarked
import Mathlib.Data.List.TakeWhile

/-!
# Rows and the lines they are on

A row carries the number of the line on which the reader stood when it set out to read the row.
That is where the row before it ended, and not where the row begins: in between there may be line
ends that belong to no row, and the line feeds among them are not counted.

## Strategy

`step_cases` says what one byte does, as far as rows and lines are concerned.  By induction over the
bytes, the current line counts the line feeds (`line_run`), the first row that is still to come has
the line that was noted at the end of the row before it (`line_of_rowsFrom`), and the fields do not
depend on any line (`SameText.rowsFrom`).

A row somewhere among the rows of an input is the first row of what is left after the rows before it
(`exists_prefix_of_rowsFrom`).  There the splitter is as fresh as at the beginning but for its line;
the line ends that follow leave it so, and the row begins with the byte after them.
`exists_rowBegins` puts this together.
-/

namespace BankStatement

namespace Splitter

variable {delimiter : UInt8}

/-! ## What a byte does -/

@[simp] theorem countLine_phase (s : Splitter) (byte : UInt8) :
    (s.countLine byte).phase = s.phase := by
  unfold countLine
  split <;> rfl

@[simp] theorem countLine_rowLine (s : Splitter) (byte : UInt8) :
    (s.countLine byte).rowLine = s.rowLine := by
  unfold countLine
  split <;> rfl

theorem countLine_line (s : Splitter) (byte : UInt8) :
    (s.countLine byte).line = s.line + [byte].count lineFeed := by
  unfold countLine
  by_cases hfeed : byte = lineFeed
  · rw [if_pos hfeed, hfeed, List.count_singleton_self]
  · rw [if_neg hfeed, List.count_singleton, if_neg (by simpa using hfeed), Nat.add_zero]

/-- A state inside a row that is on the same lines as another one. -/
def GoesOn (s next : Splitter) : Prop :=
  next.phase ≠ .betweenRows ∧ next.rowLine = s.rowLine ∧ next.line = s.line

/-- A byte in a field ends the row, or the row goes on. -/
theorem fieldByte_cases (delimiter : UInt8) (s : Splitter) (byte : UInt8) :
    (isLineEnd byte = true ∧ s.fieldByte delimiter byte = (s.nextRow, some s.row)) ∨
      ∃ next, s.fieldByte delimiter byte = (next, none) ∧ s.GoesOn next := by
  unfold fieldByte
  by_cases hdelimiter : byte = delimiter
  · rw [if_pos hdelimiter]
    exact .inr ⟨_, rfl, by simp [nextField], rfl, rfl⟩
  · rw [if_neg hdelimiter]
    by_cases hline : isLineEnd byte = true
    · rw [if_pos hline]
      exact .inl ⟨hline, rfl⟩
    · rw [if_neg hline]
      exact .inr ⟨_, rfl, by simp [push], rfl, rfl⟩

/-- So does one at the start of a field, where a quote may come. -/
theorem fieldStartByte_cases (delimiter : UInt8) (s : Splitter) (byte : UInt8) :
    (isLineEnd byte = true ∧ s.fieldStartByte delimiter byte = (s.nextRow, some s.row)) ∨
      ∃ next, s.fieldStartByte delimiter byte = (next, none) ∧ s.GoesOn next := by
  unfold fieldStartByte
  by_cases hquote : byte = quote
  · rw [if_pos hquote]
    exact .inr ⟨_, rfl, by simp, rfl, rfl⟩
  · rw [if_neg hquote]
    exact s.fieldByte_cases delimiter byte

/-- A byte ends a row and leaves the splitter between rows, or it is a line end between rows, or it
is part of a row that goes on. -/
theorem step_cases (delimiter : UInt8) (s : Splitter) (byte : UInt8) :
    (isLineEnd byte = true ∧
      s.step delimiter byte = ((s.countLine byte).nextRow, some (s.countLine byte).row)) ∨
    (s.phase = .betweenRows ∧ isLineEnd byte = true ∧
      s.step delimiter byte = (s.countLine byte, none)) ∨
    ∃ next, s.step delimiter byte = (next, none) ∧ (s.countLine byte).GoesOn next := by
  unfold step
  simp only [countLine_phase]
  cases s.phase with
  | betweenRows =>
      by_cases hline : isLineEnd byte = true
      · exact .inr (.inl ⟨rfl, hline, if_pos hline⟩)
      · simp only [if_neg hline]
        rcases (s.countLine byte).fieldStartByte_cases delimiter byte with ⟨hends, _⟩ | hgoes
        · exact absurd hends hline
        · exact .inr (.inr hgoes)
  | fieldStart => exact ((s.countLine byte).fieldStartByte_cases delimiter byte).imp id .inr
  | plain => exact ((s.countLine byte).fieldByte_cases delimiter byte).imp id .inr
  | quoted =>
      refine .inr (.inr ?_)
      by_cases hquote : byte = quote
      · exact ⟨_, if_pos hquote, by simp, rfl, rfl⟩
      · exact ⟨_, if_neg hquote, by simp [push], rfl, rfl⟩
  | quoteSeen =>
      by_cases hquote : byte = quote
      · exact .inr (.inr ⟨_, if_pos hquote, by simp [push], rfl, rfl⟩)
      · simp only [if_neg hquote]
        exact ((s.countLine byte).fieldByte_cases delimiter byte).imp id .inr

/-! ## Counting lines -/

theorem line_step (delimiter : UInt8) (s : Splitter) (byte : UInt8) :
    (s.step delimiter byte).1.line = s.line + [byte].count lineFeed := by
  rw [← countLine_line]
  rcases s.step_cases delimiter byte with ⟨_, hstep⟩ | ⟨_, _, hstep⟩ | ⟨next, hstep, _, _, hline⟩
  · rw [hstep]
    rfl
  · rw [hstep]
  · rw [hstep, hline]

/-- The current line counts the line feeds, whatever they are part of. -/
theorem line_run (delimiter : UInt8) (s : Splitter) (bytes : List UInt8) :
    (s.run delimiter bytes).2.line = s.line + bytes.count lineFeed := by
  induction bytes generalizing s with
  | nil => rfl
  | cons byte rest ih =>
      calc (s.run delimiter (byte :: rest)).2.line
          = (s.step delimiter byte).1.line + rest.count lineFeed := ih _
        _ = s.line + ([byte].count lineFeed + rest.count lineFeed) := by
            rw [line_step, Nat.add_assoc]
        _ = s.line + (byte :: rest).count lineFeed := by
            rw [← List.count_append, List.singleton_append]

/-! ## All rows of the bytes that are left -/

/-- The rows of bytes after which the input ends, from a state on. -/
def rowsFrom (delimiter : UInt8) (s : Splitter) (bytes : List UInt8) : List RawRow :=
  (s.run delimiter bytes).1 ++ (s.run delimiter bytes).2.finish.toList

theorem rowsFrom_append (delimiter : UInt8) (s : Splitter) (first second : List UInt8) :
    s.rowsFrom delimiter (first ++ second) =
      (s.run delimiter first).1 ++ (s.run delimiter first).2.rowsFrom delimiter second := by
  unfold rowsFrom
  rw [run_concat, List.append_assoc]

theorem rowsFrom_cons (delimiter : UInt8) (s : Splitter) (byte : UInt8) (rest : List UInt8) :
    s.rowsFrom delimiter (byte :: rest) =
      (s.step delimiter byte).2.toList ++ (s.step delimiter byte).1.rowsFrom delimiter rest := by
  unfold rowsFrom
  rw [run_cons, List.append_assoc]

theorem rowsFrom_cons_of_no_row {byte : UInt8} {s next : Splitter}
    (h : s.step delimiter byte = (next, none)) (rest : List UInt8) :
    s.rowsFrom delimiter (byte :: rest) = next.rowsFrom delimiter rest := by
  unfold rowsFrom
  rw [run_cons_of_no_row h]

theorem rowsFrom_cons_of_row {byte : UInt8} {s next : Splitter} {row : RawRow}
    (h : s.step delimiter byte = (next, some row)) (rest : List UInt8) :
    s.rowsFrom delimiter (byte :: rest) = row :: next.rowsFrom delimiter rest := by
  unfold rowsFrom
  rw [run_cons_of_row h, List.cons_append]

/-- Once a row has begun, there is a row. -/
theorem rowsFrom_ne_nil {s : Splitter} (h : s.phase ≠ .betweenRows) (bytes : List UInt8) :
    s.rowsFrom delimiter bytes ≠ [] := by
  induction bytes generalizing s with
  | nil => simp [rowsFrom, finish, h]
  | cons byte rest ih =>
      rcases s.step_cases delimiter byte with
        ⟨_, hstep⟩ | ⟨hbetween, _, _⟩ | ⟨next, hstep, hnext, _⟩
      · rw [rowsFrom_cons_of_row hstep]
        exact List.cons_ne_nil _ _
      · exact absurd hbetween h
      · rw [rowsFrom_cons_of_no_row hstep]
        exact ih hnext

/-- The next row has the line that was noted when the row before it ended. -/
theorem line_of_rowsFrom {s : Splitter} {bytes : List UInt8} {row : RawRow} {more : List RawRow}
    (h : s.rowsFrom delimiter bytes = row :: more) : row.line = s.rowLine := by
  induction bytes generalizing s with
  | nil =>
      by_cases hbetween : s.phase = .betweenRows
      · simp [rowsFrom, finish, hbetween] at h
      · have hlast : [s.row] = row :: more := by simpa [rowsFrom, finish, hbetween] using h
        obtain rfl := (List.cons.inj hlast).1
        rfl
  | cons byte rest ih =>
      rcases s.step_cases delimiter byte with
        ⟨_, hstep⟩ | ⟨_, _, hstep⟩ | ⟨next, hstep, _, hline, _⟩
      · rw [rowsFrom_cons_of_row hstep] at h
        obtain rfl := (List.cons.inj h).1
        exact s.countLine_rowLine byte
      · rw [rowsFrom_cons_of_no_row hstep] at h
        exact (ih h).trans (s.countLine_rowLine byte)
      · rw [rowsFrom_cons_of_no_row hstep] at h
        exact (ih h).trans (hline.trans (s.countLine_rowLine byte))

/-- The rows of a feed are among those, also when a failure cuts the last one off. -/
theorem rows_ofFeed_isPrefix (delimiter : UInt8) (feed : Feed) :
    (RowReading.ofFeed delimiter feed).rows <+: initial.rowsFrom delimiter feed.bytes := by
  unfold RowReading.ofFeed RowReading.ofFeedFrom
  cases hfailure : feed.failure? with
  | none => exact List.prefix_refl _
  | some message => exact List.prefix_append _ _

/-! ## Fields do not depend on lines -/

/-- States that differ in their lines at most. -/
structure SameText (s other : Splitter) : Prop where
  phase : s.phase = other.phase
  field : s.field = other.field
  fields : s.fields = other.fields

/-- Outcomes of a byte that differ in lines at most. -/
def SameOutcome (outcome other : Splitter × Option RawRow) : Prop :=
  outcome.1.SameText other.1 ∧ outcome.2.map (·.fields) = other.2.map (·.fields)

variable {s other : Splitter}

theorem SameText.trans {third : Splitter} (h : s.SameText other) (hnext : other.SameText third) :
    s.SameText third :=
  ⟨h.phase.trans hnext.phase, h.field.trans hnext.field, h.fields.trans hnext.fields⟩

theorem SameText.countLine (h : s.SameText other) (byte : UInt8) :
    (s.countLine byte).SameText (other.countLine byte) := by
  unfold Splitter.countLine
  by_cases hfeed : byte = lineFeed
  · rw [if_pos hfeed, if_pos hfeed]
    exact ⟨h.phase, h.field, h.fields⟩
  · rwa [if_neg hfeed, if_neg hfeed]

theorem SameText.withPhase (h : s.SameText other) (phase : SplitPhase) :
    SameOutcome ({ s with phase }, none) ({ other with phase }, none) :=
  ⟨⟨rfl, h.field, h.fields⟩, rfl⟩

theorem SameText.push (h : s.SameText other) (phase : SplitPhase) (byte : UInt8) :
    SameOutcome (s.push phase byte, none) (other.push phase byte, none) :=
  ⟨⟨rfl, congrArg (byte :: ·) h.field, h.fields⟩, rfl⟩

theorem SameText.row_fields (h : s.SameText other) : s.row.fields = other.row.fields := by
  simp only [row, h.field, h.fields]

theorem SameText.fieldByte (h : s.SameText other) (byte : UInt8) :
    SameOutcome (s.fieldByte delimiter byte) (other.fieldByte delimiter byte) := by
  unfold Splitter.fieldByte
  by_cases hdelimiter : byte = delimiter
  · rw [if_pos hdelimiter, if_pos hdelimiter]
    exact ⟨⟨rfl, rfl, by simp only [nextField, h.field, h.fields]⟩, rfl⟩
  · rw [if_neg hdelimiter, if_neg hdelimiter]
    by_cases hline : isLineEnd byte = true
    · rw [if_pos hline, if_pos hline]
      exact ⟨⟨rfl, rfl, rfl⟩, congrArg some h.row_fields⟩
    · rw [if_neg hline, if_neg hline]
      exact h.push .plain byte

theorem SameText.fieldStartByte (h : s.SameText other) (byte : UInt8) :
    SameOutcome (s.fieldStartByte delimiter byte) (other.fieldStartByte delimiter byte) := by
  unfold Splitter.fieldStartByte
  by_cases hquote : byte = quote
  · rw [if_pos hquote, if_pos hquote]
    exact h.withPhase .quoted
  · rw [if_neg hquote, if_neg hquote]
    exact h.fieldByte byte

theorem SameText.step (hsame : s.SameText other) (delimiter byte : UInt8) :
    SameOutcome (s.step delimiter byte) (other.step delimiter byte) := by
  have h := hsame.countLine byte
  unfold Splitter.step
  simp only [countLine_phase, ← hsame.phase]
  cases s.phase with
  | betweenRows =>
      by_cases hline : isLineEnd byte = true
      · simp only [if_pos hline]
        exact ⟨h, rfl⟩
      · simp only [if_neg hline]
        exact h.fieldStartByte byte
  | fieldStart => exact h.fieldStartByte byte
  | plain => exact h.fieldByte byte
  | quoted =>
      by_cases hquote : byte = quote
      · simp only [if_pos hquote]
        exact h.withPhase .quoteSeen
      · simp only [if_neg hquote]
        exact h.push .quoted byte
  | quoteSeen =>
      by_cases hquote : byte = quote
      · simp only [if_pos hquote]
        exact h.push .quoted byte
      · simp only [if_neg hquote]
        exact h.fieldByte byte

/-- Wherever the splitter stands, the rows have the same fields. -/
theorem SameText.rowsFrom (h : s.SameText other) (bytes : List UInt8) :
    (s.rowsFrom delimiter bytes).map (·.fields) =
      (other.rowsFrom delimiter bytes).map (·.fields) := by
  induction bytes generalizing s other with
  | nil =>
      by_cases hbetween : s.phase = .betweenRows
      · simp [Splitter.rowsFrom, finish, ← h.phase, hbetween]
      · simp [Splitter.rowsFrom, finish, ← h.phase, hbetween, h.row_fields]
  | cons byte rest ih =>
      obtain ⟨hnext, hrow⟩ := h.step delimiter byte
      rw [rowsFrom_cons, rowsFrom_cons, List.map_append, List.map_append, ih hnext,
        ← Option.toList_map, hrow, Option.toList_map]

/-! ## Where a row begins -/

/-- The last of some bytes ends a row. -/
def EndsRow (delimiter : UInt8) (s : Splitter) (bytes : List UInt8) : Prop :=
  ∃ init last row, bytes = init ++ [last] ∧
    ((s.run delimiter init).2.step delimiter last).2 = some row

theorem EndsRow.cons {byte : UInt8} {s : Splitter} {bytes : List UInt8}
    (h : (s.step delimiter byte).1.EndsRow delimiter bytes) :
    s.EndsRow delimiter (byte :: bytes) := by
  obtain ⟨init, last, row, rfl, hrow⟩ := h
  exact ⟨byte :: init, last, row, rfl, hrow⟩

/-- Some rows and another one: the bytes of the first rows can be cut off, and end with a row. -/
theorem exists_prefix_of_rowsFrom {s : Splitter} {bytes : List UInt8} {init more : List RawRow}
    {row : RawRow} (h : s.rowsFrom delimiter bytes = init ++ row :: more) (hinit : init ≠ []) :
    ∃ before rest after, bytes = before ++ rest ∧ s.EndsRow delimiter before ∧
      s.run delimiter before = (init, nextRow after) := by
  induction bytes generalizing s init with
  | nil =>
      -- the end of the input ends one row only
      have hlength : (s.rowsFrom delimiter []).length ≤ 1 := by
        unfold rowsFrom
        rw [run_nil]
        cases s.finish <;> simp
      rw [h, List.length_append, List.length_cons] at hlength
      have hpositive := List.length_pos_iff.mpr hinit
      omega
  | cons byte rest ih =>
      -- a byte that ends no row belongs to the bytes that are cut off
      have hskip : ∀ next, s.step delimiter byte = (next, none) →
          ∃ before rest' after, byte :: rest = before ++ rest' ∧ s.EndsRow delimiter before ∧
            s.run delimiter before = (init, nextRow after) := by
        intro next hstep
        rw [rowsFrom_cons_of_no_row hstep] at h
        obtain ⟨before, rest', after, rfl, hends, hrun⟩ := ih h hinit
        exact ⟨byte :: before, rest', after, rfl, .cons (by rwa [hstep]),
          (run_cons_of_no_row hstep before).trans hrun⟩
      rcases s.step_cases delimiter byte with ⟨_, hstep⟩ | ⟨_, _, hstep⟩ | ⟨next, hstep, _⟩
      · obtain ⟨first, others, rfl⟩ := List.exists_cons_of_ne_nil hinit
        rw [rowsFrom_cons_of_row hstep, List.cons_append] at h
        obtain ⟨rfl, hothers⟩ := List.cons.inj h
        by_cases hlast : others = []
        · subst hlast
          refine ⟨[byte], rest, s.countLine byte, rfl,
            ⟨[], byte, (s.countLine byte).row, rfl, ?_⟩, ?_⟩
          · rw [run_nil, hstep]
          · rw [run_cons_of_row hstep, run_nil]
        · obtain ⟨before, rest', after, rfl, hends, hrun⟩ := ih hothers hlast
          refine ⟨byte :: before, rest', after, rfl, .cons (by rwa [hstep]), ?_⟩
          rw [run_cons_of_row hstep, hrun]
      · exact hskip _ hstep
      · exact hskip next hstep

/-- Line ends between rows leave the splitter where it is, on another line at most. -/
theorem run_gap (delimiter : UInt8) {s : Splitter} (hphase : s.phase = .betweenRows)
    {gap : List UInt8} (hgap : ∀ byte ∈ gap, isLineEnd byte = true) :
    (s.run delimiter gap).1 = [] ∧ (s.run delimiter gap).2.SameText s := by
  induction gap generalizing s with
  | nil => exact ⟨rfl, rfl, rfl, rfl⟩
  | cons byte rest ih =>
      obtain ⟨hbyte, hrest⟩ := List.forall_mem_cons.mp hgap
      have hstep : s.step delimiter byte = (s.countLine byte, none) := by
        unfold step
        simp only [countLine_phase, hphase, hbyte, if_true]
      obtain ⟨hrows, hsame⟩ := ih ((s.countLine_phase byte).trans hphase) hrest
      rw [run_cons_of_no_row hstep]
      refine ⟨hrows, hsame.phase.trans (s.countLine_phase byte), hsame.field.trans ?_,
        hsame.fields.trans ?_⟩
      all_goals
        unfold countLine
        split <;> rfl

/-- The line ends at the front of some bytes. -/
theorem exists_gap (bytes : List UInt8) :
    ∃ gap rest, bytes = gap ++ rest ∧ (∀ byte ∈ gap, isLineEnd byte = true) ∧
      ∀ byte more, rest = byte :: more → isLineEnd byte = false := by
  refine ⟨bytes.takeWhile isLineEnd, bytes.dropWhile isLineEnd,
    List.takeWhile_append_dropWhile.symm, fun byte hbyte => List.mem_takeWhile_imp hbyte, ?_⟩
  intro byte more hrest
  have hnot := List.dropWhile_get_zero_not isLineEnd bytes (by simp [hrest])
  simpa [hrest] using hnot

/-- Bytes cut where a row begins.  What comes before is nothing or ends with a row, then there are
line ends that belong to no row, and the next byte is no line end. -/
structure RowBegins (delimiter : UInt8) (before gap rest : List UInt8) : Prop where
  before : before = [] ∨ initial.EndsRow delimiter before
  gap : ∀ byte ∈ gap, isLineEnd byte = true
  rest : ∃ byte more, rest = byte :: more ∧ isLineEnd byte = false

/-- **Every row begins somewhere.**  Each row of an input can be cut off where it begins: there the
rows before it have ended, it is the first row of the rest, and its line is the one on which the row
before it ended. -/
theorem exists_rowBegins {bytes : List UInt8} {init more : List RawRow} {row : RawRow}
    (h : initial.rowsFrom delimiter bytes = init ++ row :: more) :
    ∃ before gap rest, bytes = before ++ gap ++ rest ∧ RowBegins delimiter before gap rest ∧
      initial.rowsFrom delimiter before = init ∧
      (initial.rowsFrom delimiter rest).map (·.fields) = (row :: more).map (·.fields) ∧
      row.line = 1 + before.count lineFeed := by
  -- the state after the rows before is as fresh as the initial one
  obtain ⟨before, left, s, rfl, hbefore, hrun, hfresh, hnoted⟩ :
      ∃ before left s, bytes = before ++ left ∧
        (before = [] ∨ initial.EndsRow delimiter before) ∧
        initial.run delimiter before = (init, s) ∧ s.SameText initial ∧ s.rowLine = s.line := by
    by_cases hinit : init = []
    · subst hinit
      exact ⟨[], bytes, initial, rfl, .inl rfl, rfl, ⟨rfl, rfl, rfl⟩, rfl⟩
    · obtain ⟨before, left, after, hbytes, hends, hrun⟩ := exists_prefix_of_rowsFrom h hinit
      exact ⟨before, left, after.nextRow, hbytes, .inr hends, hrun, ⟨rfl, rfl, rfl⟩, rfl⟩
  have hbetween : s.phase = .betweenRows := hfresh.phase
  have hrows : s.rowsFrom delimiter left = row :: more := by
    rw [rowsFrom_append, hrun] at h
    exact List.append_cancel_left h
  -- the line ends that follow belong to no row
  obtain ⟨gap, rest, rfl, hgap, hhead⟩ := exists_gap left
  obtain ⟨hnone, hsame⟩ := run_gap delimiter hbetween hgap
  have hrest : (s.run delimiter gap).2.rowsFrom delimiter rest = row :: more := by
    rw [rowsFrom_append, hnone, List.nil_append] at hrows
    exact hrows
  have hline : row.line = 1 + before.count lineFeed := by
    have hcounted := line_run delimiter initial before
    rw [hrun] at hcounted
    exact (line_of_rowsFrom hrows).trans (hnoted.trans hcounted)
  refine ⟨before, gap, rest, (List.append_assoc ..).symm, ⟨hbefore, hgap, ?_⟩, ?_, ?_, hline⟩
  · -- without a byte there would be no row
    cases rest with
    | nil => simp [rowsFrom, finish, hsame.phase, hbetween] at hrest
    | cons byte others => exact ⟨byte, others, rfl, hhead byte others rfl⟩
  · unfold rowsFrom
    rw [hrun, finish, if_pos hbetween]
    exact List.append_nil _
  · rw [← hrest, (hsame.trans hfresh).rowsFrom]

end Splitter

end BankStatement
