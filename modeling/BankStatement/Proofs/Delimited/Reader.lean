import BankStatement.Delimited.Feed

/-!
# Reading rows one by one is splitting the whole input

A `RowReader` looks at its source through a buffer: a row may lie in one read or in several, one
read may bring many rows, and the last row may end with the input and not with a line end.  Here its
rows are shown to be those of the whole input, split in one go (`rows_ofSource`), so that nothing of
this shows.

The invariant is an equation: what the reader still gives is the splitting of what is in its buffer
and what its source still delivers, from the state that its splitter is in (`splitting`).  One call
of `next` either takes one row off the front of that, or finds that there is none
(`splitting_next`). The beginning of the input is a case of its own, because that is where a byte
order mark is dropped.
-/

namespace BankStatement

namespace RowReader

/-! ## The rows, one call at a time -/

theorem rows_of_next_error {r after : RowReader} {message : String}
    (h : r.next = (.error message, after)) : r.rows = ⟨[], some message⟩ := by
  rw [rows]
  split <;> simp_all

theorem rows_of_next_none {r after : RowReader} (h : r.next = (.ok none, after)) :
    r.rows = ⟨[], none⟩ := by
  rw [rows]
  split <;> simp_all

theorem rows_of_next_some {r after : RowReader} {row : RawRow}
    (h : r.next = (.ok (some row), after)) : r.rows = after.rows.prepend row := by
  rw [rows]
  split <;> simp_all

theorem next_of_ended {r : RowReader} (h : r.ended = true) : r.next = (.ok none, r) := by
  rw [next]
  simp [h]

theorem rows_of_ended {r : RowReader} (h : r.ended = true) : r.rows = ⟨[], none⟩ :=
  rows_of_next_none (next_of_ended h)

theorem ended_of_close_none {r : RowReader} (h : r.close.1 = none) : r.close.2.ended = true := by
  unfold close at h ⊢
  split at h <;> simp_all

/-- A reader without a next row stays without one. -/
theorem ended_of_next_none {r after : RowReader} (h : r.next = (.ok none, after)) :
    after.ended = true := by
  fun_induction next r with
  | case1 r hended =>
      simp only [Prod.mk.injEq, true_and] at h
      exact h ▸ hended
  | case2 => simp at h
  | case3 r _ _ filled _ _ =>
      simp only [Prod.mk.injEq, Except.ok.injEq] at h
      exact h.2 ▸ ended_of_close_none h.1
  | case4 => simp at h
  | case5 _ _ _ _ _ _ _ _ _ _ _ ih => exact ih h

/-- Passing over rows drops them from the front.  When that fails there were too few. -/
theorem rows_skip (r : RowReader) (count : Nat) :
    match r.skip count with
    | .ok after => after.rows = ⟨r.rows.rows.drop count, r.rows.failure?⟩
    | .error message => r.rows.rows.drop count = [] ∧ r.rows.failure? = some message := by
  induction count generalizing r with
  | zero => simp [skip]
  | succ count ih =>
      rw [skip]
      match hnext : r.next with
      | (.error message, _) => simp [rows_of_next_error hnext]
      | (.ok none, after) =>
          simp [rows_of_next_none hnext, rows_of_ended (ended_of_next_none hnext)]
      | (.ok (some row), after) =>
          simpa [rows_of_next_some hnext, RowReading.prepend] using ih after

/-! ## Sources without failures -/

theorem neverFails_fill {r : RowReader} (h : r.source.NeverFails) :
    r.fill.1 = .ok () ∧ r.fill.2.source.NeverFails := by
  unfold fill
  split
  · exact ⟨rfl, h⟩
  · obtain ⟨got, rest, htaken, hlater⟩ := h.read readLimit
    rw [htaken]
    exact ⟨rfl, hlater⟩

theorem source_close (r : RowReader) : r.close.2.source = r.source := by
  unfold close
  split <;> rfl

theorem neverFails_next {r : RowReader} (h : r.source.NeverFails) :
    (∃ row?, r.next.1 = .ok row?) ∧ r.next.2.source.NeverFails := by
  have hfilling := neverFails_fill h
  fun_induction next r with
  | case1 r => exact ⟨⟨none, rfl⟩, h⟩
  | case2 r _ message failed hfill => simp [hfill] at hfilling
  | case3 r _ _ filled hfill _ =>
      rw [hfill] at hfilling
      exact ⟨⟨_, rfl⟩, by rw [source_close]; exact hfilling.2⟩
  | case4 r _ _ filled hfill _ _ _ row _ _ _ =>
      rw [hfill] at hfilling
      exact ⟨⟨some row, rfl⟩, hfilling.2⟩
  | case5 r _ _ filled hfill _ _ _ splitter left _ ih =>
      rw [hfill] at hfilling
      exact ih hfilling.2 (neverFails_fill hfilling.2)

/-- Without a failure of the source, all rows are read. -/
theorem failure?_rows_of_neverFails {r : RowReader} (h : r.source.NeverFails) :
    r.rows.failure? = none := by
  have hreading := neverFails_next h
  fun_induction rows r with
  | case1 r message _ hnext => simp [hnext] at hreading
  | case2 => rfl
  | case3 r row after hnext ih =>
      rw [hnext] at hreading
      exact ih hreading.2 (neverFails_next hreading.2)

end RowReader

/-! ## Reading up to the end of a row -/

/-- Reading a row is the first part of splitting all bytes. -/
theorem Splitter.run_append (delimiter : UInt8) (s : Splitter) (bytes more : List UInt8) :
    s.run delimiter (bytes ++ more) =
      ((s.readRow delimiter bytes).1.toList ++
        ((s.readRow delimiter bytes).2.1.run delimiter
          ((s.readRow delimiter bytes).2.2 ++ more)).1,
       ((s.readRow delimiter bytes).2.1.run delimiter
          ((s.readRow delimiter bytes).2.2 ++ more)).2) := by
  induction bytes generalizing s with
  | nil => rfl
  | cons byte rest ih =>
      rw [readRow, List.cons_append, run]
      cases s.step delimiter byte with
      | mk next row? =>
          cases row? with
          | some row => rfl
          | none => simp [ih]

namespace RowReading

theorem ofFeedFrom_prepend_of_row {delimiter : UInt8} {s after : Splitter} {bytes left : List UInt8}
    {row : RawRow} (h : s.readRow delimiter bytes = (some row, after, left)) (feed : Feed) :
    ofFeedFrom delimiter s (feed.prepend bytes) =
      (ofFeedFrom delimiter after (feed.prepend left)).prepend row := by
  simp only [ofFeedFrom, Feed.prepend, Splitter.run_append delimiter s bytes, h]
  split <;> rfl

theorem ofFeedFrom_prepend_of_no_row {delimiter : UInt8} {s after : Splitter}
    {bytes left : List UInt8} (h : s.readRow delimiter bytes = (none, after, left)) (feed : Feed) :
    ofFeedFrom delimiter s (feed.prepend bytes) =
      ofFeedFrom delimiter after (feed.prepend left) := by
  simp only [ofFeedFrom, Feed.prepend, Splitter.run_append delimiter s bytes, h]
  split <;> rfl

end RowReading

theorem Feed.ofDeliveries_read {limit : Nat} {source rest : Source} {got : List UInt8}
    (h : source.read limit = (.ok got, rest)) :
    ofDeliveries source = (ofDeliveries rest).prepend got := by
  match source with
  | [] =>
      simp only [Source.read, Prod.mk.injEq, Except.ok.injEq] at h
      rw [← h.1, ← h.2]
      rfl
  | .failure _ :: _ => simp [Source.read] at h
  | .bytes head tail :: others =>
      have hwhole := List.take_append_drop limit (head :: tail)
      simp only [Source.read] at h
      split at h <;> rename_i hleft <;> simp only [Prod.mk.injEq, Except.ok.injEq] at h
      · rw [← h.1, ← h.2]
        rfl
      · rw [hleft] at hwhole
        rw [← h.1, ← h.2]
        simp only [ofDeliveries, prepend, ← List.append_assoc, hwhole]

namespace RowReader

/-- What is left of the input: the buffer, and then the source up to its end or its failure. -/
def remaining (r : RowReader) : Feed :=
  (Feed.ofDeliveries r.source).prepend r.buffer

/-- The rows of what is left of the input, split in one go. -/
def splitting (r : RowReader) : RowReading :=
  .ofFeedFrom r.delimiter r.splitter r.remaining

theorem fill_error {r failed : RowReader} {message : String}
    (h : r.fill = (.error message, failed)) : r.remaining = ⟨[], some message⟩ := by
  unfold fill at h
  split at h
  · simp at h
  · rename_i hempty
    simp only [ne_eq, Decidable.not_not] at hempty
    split at h <;> rename_i htaken <;> simp only [Prod.mk.injEq, Except.error.injEq, reduceCtorEq,
      false_and] at h
    rw [remaining, hempty, Source.read_error htaken, h.1]
    rfl

/-- Filling the buffer moves bytes, and that is all. -/
theorem fill_ok {r filled : RowReader} (h : r.fill = (.ok (), filled)) :
    filled.splitting = r.splitting ∧ filled.begun = r.begun ∧ filled.ended = r.ended ∧
      (filled.buffer = [] → filled.remaining = ⟨[], none⟩) := by
  unfold fill at h
  split at h <;> rename_i hempty
  · simp only [Prod.mk.injEq, true_and] at h
    subst h
    exact ⟨rfl, rfl, rfl, fun hnothing => absurd hnothing hempty⟩
  · simp only [ne_eq, Decidable.not_not] at hempty
    split at h <;> rename_i htaken <;> simp only [Prod.mk.injEq, true_and, reduceCtorEq,
      false_and] at h
    subst h
    refine ⟨?_, rfl, rfl, fun hnothing => ?_⟩
    · simp only [splitting, remaining, hempty, Feed.ofDeliveries_read htaken]
      rfl
    · simp only at hnothing
      rw [hnothing] at htaken
      simp only [remaining, hnothing, (Source.read_nil (by decide) htaken).2]
      rfl

theorem upcoming_of_begun {r : RowReader} (hbegun : r.begun = true) : r.upcoming = r.buffer := by
  simp [upcoming, hbegun]

theorem splitting_of_row {r : RowReader} {row : RawRow} {splitter : Splitter} {left : List UInt8}
    (h : r.splitter.readRow r.delimiter r.buffer = (some row, splitter, left)) :
    r.splitting = (r.advance splitter left).splitting.prepend row :=
  RowReading.ofFeedFrom_prepend_of_row h _

theorem splitting_of_no_row {r : RowReader} {splitter : Splitter} {left : List UInt8}
    (h : r.splitter.readRow r.delimiter r.buffer = (none, splitter, left)) :
    r.splitting = (r.advance splitter left).splitting :=
  RowReading.ofFeedFrom_prepend_of_no_row h _

/-- The end of the input ends the row that it cuts, and after that there is none. -/
theorem splitting_of_no_bytes {r : RowReader} (hbuffer : r.buffer = [])
    (hnothing : r.remaining = ⟨[], none⟩) (hended : r.ended = false) :
    match r.close with
    | (none, _) => r.splitting = ⟨[], none⟩
    | (some row, after) =>
        after.begun = true ∧ after.ended = false ∧ r.splitting = after.splitting.prepend row := by
  have hsource : Feed.ofDeliveries r.source = ⟨[], none⟩ := by
    rw [← hnothing, remaining, hbuffer]
    rfl
  unfold close
  cases hfinish : r.splitter.finish with
  | none => simp [splitting, hnothing, RowReading.ofFeedFrom, Splitter.run, hfinish]
  | some row =>
      -- the row is given once: after it the splitter stands between rows
      have hbetween : r.splitter.nextRow.finish = none := rfl
      refine ⟨rfl, hended, ?_⟩
      simp [splitting, remaining, hbuffer, hsource, RowReading.ofFeedFrom, Feed.prepend,
        RowReading.prepend, Splitter.run, hfinish, hbetween]

/-- What a call of `next` does to the rest of the input, once the input has begun. -/
theorem splitting_next {r : RowReader} (hbegun : r.begun = true) (hended : r.ended = false) :
    match r.next with
    | (.error message, _) => r.splitting = ⟨[], some message⟩
    | (.ok none, _) => r.splitting = ⟨[], none⟩
    | (.ok (some row), after) =>
        after.begun = true ∧ after.ended = false ∧ r.splitting = after.splitting.prepend row := by
  fun_induction next r with
  | case1 r contra => simp [hended] at contra
  | case2 r _ message failed hfill =>
      simp [splitting, fill_error hfill, RowReading.ofFeedFrom, Splitter.run]
  | case3 r _ _ filled hfill hupcoming =>
      obtain ⟨hsame, hbegun', hended', hlast⟩ := fill_ok hfill
      rw [upcoming_of_begun (hbegun'.trans hbegun)] at hupcoming
      rw [← hsame]
      have hclosing := splitting_of_no_bytes hupcoming (hlast hupcoming) (hended'.trans hended)
      cases hclose : filled.close with
      | mk row? after =>
          rw [hclose] at hclosing
          cases row? with
          | none => exact hclosing
          | some row => exact hclosing
  | case4 r _ _ filled hfill byte rest hupcoming row splitter left hfound =>
      obtain ⟨hsame, hbegun', hended', _⟩ := fill_ok hfill
      rw [upcoming_of_begun (hbegun'.trans hbegun)] at hupcoming
      rw [← hupcoming] at hfound
      exact ⟨rfl, hended'.trans hended, hsame ▸ splitting_of_row hfound⟩
  | case5 r _ _ filled hfill byte rest hupcoming splitter left hfound ih =>
      obtain ⟨hsame, hbegun', hended', _⟩ := fill_ok hfill
      rw [upcoming_of_begun (hbegun'.trans hbegun)] at hupcoming
      rw [← hupcoming] at hfound
      rw [← hsame, splitting_of_no_row hfound]
      exact ih rfl (hended'.trans hended)

/-- Once the input has begun, the rows are those of the rest of it. -/
theorem rows_eq_splitting {r : RowReader} (hbegun : r.begun = true) (hended : r.ended = false) :
    r.rows = r.splitting := by
  fun_induction rows r with
  | case1 r message _ hnext =>
      have hcall := splitting_next hbegun hended
      rw [hnext] at hcall
      exact hcall.symm
  | case2 r _ hnext =>
      have hcall := splitting_next hbegun hended
      rw [hnext] at hcall
      exact hcall.symm
  | case3 r row after hnext ih =>
      have hcall := splitting_next hbegun hended
      rw [hnext] at hcall
      obtain ⟨hbegun', hended', hwhole⟩ := hcall
      rw [hwhole, ih hbegun' hended']

/-! ## The beginning of the input -/

theorem rows_congr {r other : RowReader} (h : r.next = other.next) : r.rows = other.rows := by
  rw [rows, rows.eq_def other, h]

theorem next_of_fill_error {r failed : RowReader} {message : String} (hended : r.ended = false)
    (hfill : r.fill = (.error message, failed)) : r.next = (.error message, failed) := by
  rw [next, if_neg (by simp [hended])]
  split <;> simp_all

theorem next_of_no_bytes {r filled : RowReader} (hended : r.ended = false)
    (hfill : r.fill = (.ok (), filled)) (hupcoming : filled.upcoming = []) :
    r.next = (.ok filled.close.1, filled.close.2) := by
  rw [next, if_neg (by simp [hended])]
  split
  · simp_all
  · split <;> simp_all

theorem next_of_bytes {r filled : RowReader} (hended : r.ended = false)
    (hfill : r.fill = (.ok (), filled)) (hupcoming : filled.upcoming ≠ []) :
    r.next =
      match filled.splitter.readRow filled.delimiter filled.upcoming with
      | (some row, splitter, left) => (.ok (some row), filled.advance splitter left)
      | (none, splitter, left) => (filled.advance splitter left).next := by
  rw [next, if_neg (by simp [hended])]
  split
  · simp_all
  · rename_i filled' hfill'
    rw [hfill] at hfill'
    simp only [Prod.mk.injEq, true_and] at hfill'
    subst hfill'
    split
    · contradiction
    · rename_i hbytes
      simp only [hbytes]
      split <;> rename_i hfound <;> simp only [hfound]

/-- The reader with the mark dropped, as if the input had begun after it. -/
def begin (r : RowReader) : RowReader :=
  { r with buffer := r.upcoming, begun := true }

/-- Bytes to look at begin the input, whatever was dropped before them. -/
theorem rows_of_upcoming {r filled : RowReader} (hended : r.ended = false)
    (hfill : r.fill = (.ok (), filled)) (hupcoming : filled.upcoming ≠ []) :
    r.rows = filled.begin.splitting := by
  have hended' : filled.begin.ended = false := (fill_ok hfill).2.2.1.trans hended
  -- a reader that begins with these bytes has them in its buffer already
  have hfull : filled.begin.fill = (.ok (), filled.begin) := by
    simp [RowReader.fill, begin, hupcoming]
  have hsame : r.next = filled.begin.next := by
    rw [next_of_bytes hended hfill hupcoming, next_of_bytes hended' hfull hupcoming]
    rfl
  rw [rows_congr hsame, rows_eq_splitting rfl hended']

/-- The reader after its first read. -/
def afterRead (delimiter : UInt8) (bytes : List UInt8) (rest : Source) : RowReader :=
  { ofSource delimiter rest with buffer := bytes }

theorem fill_ofSource {source rest : Source} {bytes : List UInt8} (delimiter : UInt8)
    (htaken : source.read readLimit = (.ok bytes, rest)) :
    (ofSource delimiter source).fill = (.ok (), afterRead delimiter bytes rest) := by
  simp [fill, afterRead, ofSource, htaken]

/-- The whole input begins where the reader does. -/
theorem feed_ofSource {source rest : Source} {bytes : List UInt8} (delimiter : UInt8)
    (htaken : source.read readLimit = (.ok bytes, rest)) :
    Feed.ofSource source =
      if (afterRead delimiter bytes rest).upcoming = [] then ⟨[], none⟩
      else (afterRead delimiter bytes rest).begin.remaining := by
  unfold Feed.ofSource
  rw [htaken]
  split
  · simp_all [afterRead, ofSource, RowReader.upcoming]
  · simp_all [afterRead, ofSource, RowReader.upcoming, begin, remaining]
  -- the first bytes are no mark, so nothing is dropped
  · have hplain : (afterRead delimiter bytes rest).upcoming = bytes := by
      simp only [RowReader.upcoming, afterRead, ofSource]
      split <;> simp_all
    rw [begin, hplain]
    split <;> rename_i hnothing
    · rw [hnothing] at htaken
      rw [(Source.read_nil (by decide) htaken).1]
      rfl
    · exact Feed.ofDeliveries_read htaken

/-- **The rows that a reader gives are those of the whole input, split in one go.** -/
theorem rows_ofSource (delimiter : UInt8) (source : Source) :
    (ofSource delimiter source).rows = .ofFeed delimiter (.ofSource source) := by
  match htaken : source.read readLimit with
  | (.error message, rest) =>
      have hfill : (ofSource delimiter source).fill =
          (.error message, { ofSource delimiter rest with ended := true }) := by
        simp [fill, ofSource, htaken]
      rw [rows_of_next_error (next_of_fill_error rfl hfill), Source.read_error htaken]
      rfl
  | (.ok bytes, rest) =>
      have hfill := fill_ofSource delimiter htaken
      rw [feed_ofSource delimiter htaken]
      split <;> rename_i hupcoming
      · have hnext := next_of_no_bytes rfl hfill hupcoming
        rw [rows_of_next_none hnext]
        rfl
      · rw [rows_of_upcoming rfl hfill hupcoming]
        rfl

end RowReader

end BankStatement
