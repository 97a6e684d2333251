import BankStatement.Encoding.Transcoder
import BankStatement.Proofs.Encoding.Decoding
import BankStatement.Proofs.Text.Utf8

/-!
# Transcoding in pieces is decoding in one go

A `Transcoder` is cut on both sides: its source may deliver any number of bytes at a time, which may
end inside a byte order mark, a 16-bit unit or a surrogate pair, and its caller may ask for any
number of bytes of text, which may end inside a character.  A round of its loop may also complete no
character at all, and that must not look like the end of the text.

## Strategy

`pending` is the text that a transcoder has yet to hand out: what is left in the output buffer, and
then what its decoder will make of the rest of the input buffer and of everything that the source
still holds.  Taking input from the source (`pending_refill`) and decoding within the limits of the
output buffer (`pending_decode`) only move bytes between these places.  So a read takes its piece
off the front of `pending` and changes nothing else (`read_ok`), and gives an empty piece only when
nothing is pending.  A run of reads therefore hands out `pending` as it was at the first state,
which `Decoder.text_ofEncoding` says is the text of the whole input.

The one thing that has to be known about the state is that a source that was noted as ended has
nothing left (`Consistent`).
-/

namespace BankStatement.Transcoder

section

variable [NationalDecoders]

/-! ## Decoding within a limit -/

/-- However much text has room, what is decoded now and what is left to decode make up the same
text. -/
theorem text_decodeWithin (decoder : Decoder) (room : Nat) (bytes more : List UInt8) :
    Utf8.encode (decoder.text (bytes ++ more)) =
      (decodeWithin decoder room bytes).text ++
        Utf8.encode ((decodeWithin decoder room bytes).decoder.text
          (bytes.drop (decodeWithin decoder room bytes).used ++ more)) := by
  induction bytes generalizing decoder room with
  | nil => simp [decodeWithin]
  | cons byte rest ih =>
      simp only [decodeWithin]
      split
      · simp only [List.cons_append, Decoder.text, Utf8.encode_append, List.append_assoc,
          List.drop_succ_cons]
        rw [ih]
      · rfl

/-! ## The text that is pending -/

/-- The text that a transcoder has yet to hand out. -/
def pending (t : Transcoder) : List UInt8 :=
  t.output.rest ++
    if t.finished then [] else Utf8.encode (t.decoder.text (t.input.rest ++ t.source.bytes))

/-- A source that was noted as ended has nothing left. -/
def Consistent (t : Transcoder) : Prop :=
  t.ended = true → t.source = []

theorem consistent_ofSource (encoding : Encoding) (source : Source) :
    (ofSource encoding source).Consistent := by
  intro hended
  simp [ofSource] at hended

theorem pending_ofSource (encoding : Encoding) (source : Source) :
    (ofSource encoding source).pending = Utf8.encode (encoding.decode source.bytes) := by
  rw [← Decoder.text_ofEncoding]
  rfl

/-! ### One round of the loop -/

@[simp] theorem decode_source (t : Transcoder) : t.decode.source = t.source := by
  simp only [decode]
  split <;> rfl

@[simp] theorem decode_ended (t : Transcoder) : t.decode.ended = t.ended := by
  simp only [decode]
  split <;> rfl

theorem Consistent.decode {t : Transcoder} (h : t.Consistent) : t.decode.Consistent := by
  simpa [Consistent] using h

theorem Consistent.refill {t : Transcoder} {bytes : List UInt8} {source : Source}
    (hread : t.source.read inputCapacity = (.ok bytes, source)) :
    (t.refill bytes source).Consistent := by
  intro hended
  cases bytes with
  | nil => exact (Source.read_nil (by decide) hread).2
  | cons byte rest => simp [Transcoder.refill] at hended

theorem pending_refill {t : Transcoder} {bytes : List UInt8} {source : Source}
    (hread : t.source.read inputCapacity = (.ok bytes, source)) (hinput : t.input.rest = []) :
    (t.refill bytes source).pending = t.pending := by
  unfold refill pending
  rw [Source.bytes_read hread, hinput]
  rfl

theorem pending_decode {t : Transcoder} (h : t.Consistent) (houtput : t.output.rest = [])
    (hfinished : t.finished = false) : t.decode.pending = t.pending := by
  have hwhole := text_decodeWithin t.decoder outputCapacity t.input.rest t.source.bytes
  simp only [pending, houtput, hfinished, Bool.false_eq_true, if_false, List.nil_append, hwhole]
  simp only [decode]
  split <;> rename_i hlast
  · obtain ⟨hended, hused, _⟩ := hlast
    rw [Window.rest_advance] at hused
    simp [h hended, hused, Decoder.text]
  · simp [hfinished]

/-! ### One read -/

/-- A read that gives text takes it off the front of what is pending, and gives none only when none
is pending. -/
theorem read_ok {t next : Transcoder} {limit : Nat} {piece : List UInt8} (h : t.Consistent)
    (hread : t.read limit = (.ok piece, next)) :
    next.Consistent ∧ t.pending = piece ++ next.pending ∧ piece.length ≤ limit ∧
      (0 < limit → piece = [] → t.pending = []) := by
  fun_induction read t limit with
  -- text in the output buffer is handed out first
  | case1 t houtput =>
      simp only [Prod.mk.injEq, Except.ok.injEq] at hread
      obtain ⟨rfl, rfl⟩ := hread
      refine ⟨h, ?_, List.length_take_le .., fun hpositive hnothing => ?_⟩
      · have hcut : t.output.rest.drop (min limit t.output.rest.length) =
            t.output.rest.drop limit := by
          rw [List.drop_eq_drop_iff]
          omega
        simp only [pending, Window.rest_advance, hcut, ← List.append_assoc, List.take_append_drop]
      · rcases List.take_eq_nil_iff.mp hnothing with hzero | hempty
        · omega
        · exact absurd hempty houtput
  -- the decoder has completed its text
  | case2 t houtput hfinished =>
      simp only [Prod.mk.injEq, Except.ok.injEq] at hread
      obtain ⟨rfl, rfl⟩ := hread
      have hnothing : t.pending = [] := by simp_all [pending]
      exact ⟨h, by simp, Nat.zero_le _, fun _ _ => hnothing⟩
  | case3 => simp at hread
  -- one more round of the loop, with input from the source or with what is left of it
  | case4 t houtput hfinished hempty bytes source htaken ih =>
      have hsame : (t.refill bytes source).decode.pending = t.pending :=
        calc (t.refill bytes source).decode.pending
            = (t.refill bytes source).pending :=
              pending_decode (.refill htaken) (by simpa [refill] using houtput)
                (by simpa [refill] using hfinished)
          _ = t.pending := pending_refill htaken hempty.1
      rw [← hsame]
      exact ih (Consistent.refill htaken).decode hread
  | case5 t houtput hfinished _ ih =>
      rw [← pending_decode h (by simpa using houtput) (by simpa using hfinished)]
      exact ih h.decode hread

theorem exists_read_of_neverFails {t : Transcoder} (h : t.source.NeverFails) (limit : Nat) :
    ∃ piece next, t.read limit = (.ok piece, next) ∧ next.source.NeverFails := by
  fun_induction read t limit with
  | case1 => exact ⟨_, _, rfl, h⟩
  | case2 => exact ⟨_, _, rfl, h⟩
  | case3 t _ _ _ message source htaken =>
      obtain ⟨got, rest, hread, _⟩ := h.read inputCapacity
      rw [hread] at htaken
      simp at htaken
  | case4 t _ _ _ bytes source htaken ih =>
      obtain ⟨got, rest, hread, hlater⟩ := h.read inputCapacity
      rw [hread] at htaken
      simp only [Prod.mk.injEq, Except.ok.injEq] at htaken
      exact ih (by simpa [refill, ← htaken.2] using hlater)
  | case5 t _ _ _ ih => exact ih (by simpa using h)

/-- Transcoding adds no failure to those of the source. -/
theorem neverFails_toSource {t : Transcoder} (h : t.source.NeverFails) (limit : Nat) :
    (t.toSource limit).NeverFails := by
  fun_induction toSource limit t with
  | case1 t message next hresult =>
      obtain ⟨piece, after, hread, _⟩ := exists_read_of_neverFails h limit
      simp [hread] at hresult
  | case2 => simp [Source.NeverFails]
  | case3 t head tail next hresult ih =>
      obtain ⟨piece, after, hread, hafter⟩ := exists_read_of_neverFails h limit
      simp only [hread, Prod.mk.injEq, Except.ok.injEq] at hresult
      intro message hmem
      exact ih (hresult.2 ▸ hafter) message (List.mem_of_ne_of_mem (by simp) hmem)

/-! ## A run of reads -/

/-- What read number `index` gives, when the buffers of the reads have the given sizes. -/
def nthRead (t : Transcoder) (sizes : Nat → Nat) : Nat → Except String (List UInt8)
  | 0 => (t.read (sizes 0)).1
  | index + 1 => (t.read (sizes 0)).2.nthRead (fun later => sizes (later + 1)) index

/-- When nothing is pending, every read gives nothing. -/
theorem nthRead_of_pending_nil {t : Transcoder} (h : t.Consistent) (hsource : t.source.NeverFails)
    (hpending : t.pending = []) (sizes : Nat → Nat) (index : Nat) :
    t.nthRead sizes index = .ok [] := by
  induction index generalizing t sizes with
  | zero =>
      obtain ⟨piece, next, hread, _⟩ := exists_read_of_neverFails hsource (sizes 0)
      have hsplit := (read_ok h hread).2.1
      rw [hpending, eq_comm, List.append_eq_nil_iff] at hsplit
      rw [nthRead, hread, hsplit.1]
  | succ index ih =>
      obtain ⟨piece, next, hread, hnext⟩ := exists_read_of_neverFails hsource (sizes 0)
      obtain ⟨hconsistent, hsplit, _, _⟩ := read_ok h hread
      rw [hpending, eq_comm, List.append_eq_nil_iff] at hsplit
      rw [nthRead, hread]
      exact ih hconsistent hnext hsplit.2 _

/-- A run of reads hands out what is pending in pieces, none of which is empty, and then nothing. -/
theorem nthRead_eq_pieces {t : Transcoder} (h : t.Consistent) (hsource : t.source.NeverFails)
    {sizes : Nat → Nat} (hsizes : ∀ index, 0 < sizes index) :
    ∃ pieces : List (List UInt8), pieces.flatten = t.pending ∧ (∀ piece ∈ pieces, piece ≠ []) ∧
      ∀ index, t.nthRead sizes index = .ok (pieces.getD index []) ∧
        (pieces.getD index []).length ≤ sizes index := by
  -- each read takes at least one byte off what is pending, until nothing is
  induction hlength : t.pending.length using Nat.strongRecOn generalizing t sizes with
  | ind length ih =>
      by_cases hpending : t.pending = []
      · refine ⟨[], by simp [hpending], by simp, fun index => ⟨?_, by simp⟩⟩
        exact nthRead_of_pending_nil h hsource hpending sizes index
      · obtain ⟨piece, next, hread, hnext⟩ := exists_read_of_neverFails hsource (sizes 0)
        obtain ⟨hconsistent, hsplit, hlimit, hempty⟩ := read_ok h hread
        have hpiece : piece ≠ [] := fun hnil => hpending (hempty (hsizes 0) hnil)
        have hless : next.pending.length < length := by
          have hpositive := List.length_pos_iff.mpr hpiece
          rw [← hlength, hsplit, List.length_append]
          omega
        have hlater : ∀ index, 0 < sizes (index + 1) := fun index => hsizes (index + 1)
        obtain ⟨pieces, hflatten, hpieces, hreads⟩ := ih _ hless hconsistent hnext hlater rfl
        refine ⟨piece :: pieces, by simp [hflatten, hsplit], ?_, fun index => ?_⟩
        · intro other hother
          rcases List.mem_cons.mp hother with rfl | hother
          · exact hpiece
          · exact hpieces other hother
        · cases index with
          | zero => exact ⟨by simp [nthRead, hread], hlimit⟩
          | succ index =>
              simp only [nthRead, hread, List.getD_cons_succ]
              exact hreads index

/-- **The text does not depend on how it is cut.**  However a source without failures cuts its bytes
and whatever sizes the buffers of the reads have, the reads hand out the UTF-8 text of decoding all
bytes in one go, in pieces of which none is empty; every read after them gives nothing. -/
theorem nthRead_eq_decode (encoding : Encoding) {source : Source} (hsource : source.NeverFails)
    {sizes : Nat → Nat} (hsizes : ∀ index, 0 < sizes index) :
    ∃ pieces : List (List UInt8),
      pieces.flatten = Utf8.encode (encoding.decode source.bytes) ∧
      Utf8.decode? pieces.flatten = some (encoding.decode source.bytes) ∧
      (∀ piece ∈ pieces, piece ≠ []) ∧
      ∀ index, (ofSource encoding source).nthRead sizes index = .ok (pieces.getD index []) ∧
        (pieces.getD index []).length ≤ sizes index := by
  obtain ⟨pieces, hflatten, hpieces, hreads⟩ :=
    nthRead_eq_pieces (consistent_ofSource encoding source) hsource hsizes
  rw [pending_ofSource] at hflatten
  exact ⟨pieces, hflatten, by rw [hflatten, Utf8.decode?_encode], hpieces, hreads⟩

end

attribute [local instance] NationalDecoders.asciiOnly

/-- A mark, a pair of surrogates and half a unit that come in uneven pieces and leave one by one. -/
theorem nthRead_splitPair :
    let source : Source :=
      [.bytes 0xff [], .bytes 0xfe [0x3d], .bytes 0xd8 [0x00], .bytes 0xde [0x41]]
    source.NeverFails ∧ (∀ _ : Nat, 0 < 1) ∧
      ∃ pieces : List (List UInt8),
        pieces.flatten = [0xf0, 0x9f, 0x98, 0x80, 0xef, 0xbf, 0xbd] ∧
        ∀ index, (ofSource (.codePage .iso2) source).nthRead (fun _ => 1) index =
          .ok (pieces.getD index []) := by
  intro source
  have hsource : source.NeverFails := by simp [Source.NeverFails, source]
  have hsizes : ∀ _ : Nat, 0 < 1 := fun _ => Nat.one_pos
  obtain ⟨pieces, hflatten, _, _, hreads⟩ := nthRead_eq_decode (.codePage .iso2) hsource hsizes
  have htext : Utf8.encode (Encoding.decode (.codePage .iso2) source.bytes) =
      [0xf0, 0x9f, 0x98, 0x80, 0xef, 0xbf, 0xbd] := by decide +kernel
  exact ⟨hsource, hsizes, pieces, hflatten.trans htext, fun index => (hreads index).1⟩

end BankStatement.Transcoder
