import BankStatement.Proofs.Encoding.Beginning
import BankStatement.Proofs.Encoding.Transcoding

/-!
# A failure of the source loses nothing

A source may fail while it is transcoded, and the failure may come when a transcoder has text left
in its output buffer, bytes left in its input buffer, or a character, a surrogate pair or a byte
order mark half decoded.  It is passed on when everything before it has been handed out that can be,
and then reading may go on where it stopped.

## Strategy

Let a source deliver some bytes, fail, and go on in some way.  `ready` is the text that can be
handed out before the failure: what is left in the output buffer, and what the decoder completes of
the input buffer and of the bytes before the failure, without being told that they have ended.  A
read takes a piece off the front of `ready` as long as there is any; when there is none, it fails,
and leaves both buffers empty and the decoder as it is after all these bytes (`Interrupted.read`).
`Interrupted.nthRead` adds up the reads up to the failure, and from there on the text is what the
decoder makes of the rest, as in `Transcoding`.
-/

namespace BankStatement

/-- A read that is not at the end of a source does not see what follows it. -/
theorem Source.read_append {before : Source} (hbefore : before ≠ []) {limit : Nat}
    {result : Except String (List UInt8)} {rest : Source}
    (h : before.read limit = (result, rest)) (following : Source) :
    Source.read limit (before ++ following) = (result, rest ++ following) := by
  cases before with
  | nil => exact absurd rfl hbefore
  | cons delivery others =>
      cases delivery with
      | failure message =>
          simp only [Source.read, Prod.mk.injEq] at h
          simp only [List.cons_append, Source.read, h]
      | bytes head tail =>
          simp only [Source.read] at h
          simp only [List.cons_append, Source.read]
          split at h <;> obtain ⟨rfl, rfl⟩ := Prod.mk.inj h <;> rfl

theorem Source.bytes_append (first second : Source) :
    bytes (first ++ second) = first.bytes ++ second.bytes := by
  induction first with
  | nil => rfl
  | cons delivery rest ih => cases delivery <;> simp [bytes, ih]

namespace Transcoder

section

variable [NationalDecoders]

/-! ## The text before a failure -/

/-- Whether the source of a transcoder fails after some deliveries, and how it goes on then. -/
structure Interrupted (t : Transcoder) (before : Source) (message : String) (rest : Source) :
    Prop where
  source : t.source = before ++ .failure message :: rest
  neverFails : before.NeverFails
  ended : t.ended = false
  finished : t.finished = false

/-- The text that a transcoder can hand out before its source fails. -/
def ready (t : Transcoder) (before : Source) : List UInt8 :=
  t.output.rest ++ Utf8.encode (t.decoder.run (t.input.rest ++ before.bytes)).2

/-- The decoder after all bytes before the failure. -/
def reached (t : Transcoder) (before : Source) : Decoder :=
  (t.decoder.run (t.input.rest ++ before.bytes)).1

/-- Whether a transcoder has empty buffers and may go on with a decoder and a source. -/
structure Paused (t : Transcoder) (decoder : Decoder) (source : Source) : Prop where
  source : t.source = source
  decoder : t.decoder = decoder
  input : t.input.rest = []
  output : t.output.rest = []
  ended : t.ended = false
  finished : t.finished = false

/-! ### One round of the loop -/

/-- However much text has room, decoding now and decoding later reach the same state and complete
the same text. -/
theorem run_decodeWithin (decoder : Decoder) (room : Nat) (bytes more : List UInt8) :
    let stretch := decodeWithin decoder room bytes
    (stretch.decoder.run (bytes.drop stretch.used ++ more)).1 = (decoder.run (bytes ++ more)).1 ∧
      stretch.text ++ Utf8.encode (stretch.decoder.run (bytes.drop stretch.used ++ more)).2 =
        Utf8.encode (decoder.run (bytes ++ more)).2 := by
  induction bytes generalizing decoder room with
  | nil => simp [decodeWithin]
  | cons byte rest ih =>
      simp only [decodeWithin]
      split
      · obtain ⟨hstate, htext⟩ := ih (decoder.step byte).1
          (room - (Utf8.encode (decoder.step byte).2).length)
        simp only [List.drop_succ_cons, List.cons_append, Decoder.run_cons, Utf8.encode_append,
          List.append_assoc]
        exact ⟨hstate, by rw [htext]⟩
      · simp

variable {t : Transcoder} {before rest : Source} {message : String}

theorem decode_of_not_ended (h : t.ended = false) :
    t.decode = { t with
      decoder := (decodeWithin t.decoder outputCapacity t.input.rest).decoder
      input := t.input.advance (decodeWithin t.decoder outputCapacity t.input.rest).used
      output := .ofBytes (decodeWithin t.decoder outputCapacity t.input.rest).text } := by
  simp [decode, h]

/-- Decoding what is in the input buffer moves its text to the output buffer. -/
theorem Interrupted.decode (h : t.Interrupted before message rest) (houtput : t.output.rest = []) :
    t.decode.Interrupted before message rest ∧ t.decode.ready before = t.ready before ∧
      t.decode.reached before = t.reached before := by
  obtain ⟨hstate, htext⟩ :=
    run_decodeWithin t.decoder outputCapacity t.input.rest before.bytes
  rw [decode_of_not_ended h.ended]
  refine ⟨⟨h.source, h.neverFails, h.ended, h.finished⟩, ?_, ?_⟩
  · simp only [ready, Window.rest_ofBytes, Window.rest_advance, houtput, List.nil_append]
    exact htext
  · simp only [reached, Window.rest_advance]
    exact hstate

/-- Taking input from the source moves bytes to the input buffer; only the failure stops it. -/
theorem Interrupted.refill (h : t.Interrupted before message rest) (hinput : t.input.rest = [])
    {bytes : List UInt8} {source : Source}
    (htaken : t.source.read inputCapacity = (.ok bytes, source)) :
    ∃ later, (t.refill bytes source).Interrupted later message rest ∧
      (t.refill bytes source).ready later = t.ready before ∧
      (t.refill bytes source).reached later = t.reached before := by
  by_cases hbefore : before = []
  · rw [h.source, hbefore] at htaken
    cases htaken
  · obtain ⟨got, later, hread, hlater⟩ := h.neverFails.read inputCapacity
    rw [h.source, Source.read_append hbefore hread] at htaken
    obtain ⟨hgot, hsource⟩ := Prod.mk.inj htaken
    obtain rfl := Except.ok.inj hgot
    have hbytes := Source.bytes_read hread
    have hsome : got ≠ [] := by
      rintro rfl
      exact hbefore (Source.read_nil (by decide) hread).1
    refine ⟨later, ⟨hsource.symm, hlater, by simpa [Transcoder.refill] using hsome, h.finished⟩,
      ?_, ?_⟩
    · simp [ready, Transcoder.refill, hinput, hbytes]
    · simp [reached, Transcoder.refill, hinput, hbytes]

/-! ### One read -/

/-- A read takes a piece off the text that is ready.  When none is ready it fails, and the decoder
has seen all bytes before the failure. -/
theorem Interrupted.read (h : t.Interrupted before message rest) (limit : Nat) :
    (∃ piece next later, t.read limit = (.ok piece, next) ∧ next.Interrupted later message rest ∧
      t.ready before = piece ++ next.ready later ∧ next.reached later = t.reached before ∧
      piece.length ≤ limit ∧ (0 < limit → piece ≠ [])) ∨
    (t.ready before = [] ∧
      ∃ next, t.read limit = (.error message, next) ∧ next.Paused (t.reached before) rest) := by
  fun_induction Transcoder.read t limit generalizing before with
  | case1 t houtput =>
      refine .inl ⟨_, _, before, rfl, ⟨h.source, h.neverFails, h.ended, h.finished⟩, ?_, rfl,
        List.length_take_le .., fun hpositive hnothing => ?_⟩
      · have hcut : t.output.rest.drop (min limit t.output.rest.length) =
            t.output.rest.drop limit := by
          rw [List.drop_eq_drop_iff]
          omega
        simp only [ready, Window.rest_advance, hcut, ← List.append_assoc, List.take_append_drop]
      · rcases List.take_eq_nil_iff.mp hnothing with hzero | hempty
        · omega
        · exact houtput hempty
  | case2 t houtput hfinished => simp [h.finished] at hfinished
  -- the source fails, which it does when nothing is left before the failure
  | case3 t houtput hfinished hempty reason source htaken =>
      have hbefore : before = [] := by
        refine Decidable.byContradiction fun hsome => ?_
        obtain ⟨got, later, hread, _⟩ := h.neverFails.read inputCapacity
        rw [h.source, Source.read_append hsome hread] at htaken
        cases htaken
      rw [h.source, hbefore] at htaken
      obtain ⟨hreason, hsource⟩ := Prod.mk.inj htaken
      obtain rfl := Except.error.inj hreason
      have hnothing : t.output.rest = [] := by simpa using houtput
      refine .inr ⟨by simp [ready, hnothing, hempty.1, hbefore], _, rfl,
        ⟨hsource.symm, ?_, hempty.1, hnothing, h.ended, h.finished⟩⟩
      simp [reached, hempty.1, hbefore]
  | case4 t houtput hfinished hempty bytes source htaken ih =>
      obtain ⟨later, hrefill, hready, hreached⟩ := h.refill hempty.1 htaken
      have hnothing : (t.refill bytes source).output.rest = [] := by
        simpa [Transcoder.refill] using houtput
      obtain ⟨hdecode, hreadyDecode, hreachedDecode⟩ := hrefill.decode hnothing
      rw [← hready, ← hreached, ← hreadyDecode, ← hreachedDecode]
      exact ih hdecode
  | case5 t houtput hfinished _ ih =>
      obtain ⟨hdecode, hready, hreached⟩ := h.decode (by simpa using houtput)
      rw [← hready, ← hreached]
      exact ih hdecode

/-! ## Reads up to the failure -/

/-- The transcoder after some reads. -/
def after (t : Transcoder) (sizes : Nat → Nat) : Nat → Transcoder
  | 0 => t
  | count + 1 => (t.read (sizes 0)).2.after (fun later => sizes (later + 1)) count

theorem nthRead_add (t : Transcoder) (sizes : Nat → Nat) (count index : Nat) :
    t.nthRead sizes (count + index) =
      (t.after sizes count).nthRead (fun later => sizes (count + later)) index := by
  induction count generalizing t sizes with
  | zero => simp [after]
  | succ count ih =>
      rw [Nat.succ_add, nthRead, ih, after]
      simp only [Nat.succ_add]

/-- The reads hand out what is ready in pieces, none of which is empty, and then the failure. -/
theorem Interrupted.nthRead (h : t.Interrupted before message rest) {sizes : Nat → Nat}
    (hsizes : ∀ index, 0 < sizes index) :
    ∃ pieces : List (List UInt8), pieces.flatten = t.ready before ∧
      (∀ piece ∈ pieces, piece ≠ []) ∧
      (∀ index piece, pieces[index]? = some piece →
        t.nthRead sizes index = .ok piece ∧ piece.length ≤ sizes index) ∧
      t.nthRead sizes pieces.length = .error message ∧
      (t.after sizes (pieces.length + 1)).Paused (t.reached before) rest := by
  -- each read takes at least one byte off what is ready, until nothing is
  induction hlength : (t.ready before).length using Nat.strongRecOn generalizing t before sizes with
  | ind length ih =>
      rcases h.read (sizes 0) with
        ⟨piece, next, later, hread, hnext, hready, hreached, hlimit, hsome⟩ |
        ⟨hready, next, hread, hnext⟩
      · have hpiece : piece ≠ [] := hsome (hsizes 0)
        have hless : (next.ready later).length < length := by
          have := List.length_pos_iff.mpr hpiece
          rw [← hlength, hready, List.length_append]
          omega
        have hlater : ∀ index, 0 < sizes (index + 1) := fun index => hsizes (index + 1)
        obtain ⟨pieces, hflatten, hpieces, hreads, hfailure, hpaused⟩ :=
          ih _ hless hnext hlater rfl
        refine ⟨piece :: pieces, by rw [List.flatten_cons, hflatten, hready],
          List.forall_mem_cons.mpr ⟨hpiece, hpieces⟩, fun index other hother => ?_, ?_, ?_⟩
        · cases index with
          | zero =>
              obtain rfl : piece = other := by simpa using hother
              exact ⟨by rw [Transcoder.nthRead, hread], hlimit⟩
          | succ index =>
              rw [Transcoder.nthRead, hread]
              exact hreads index other (by simpa using hother)
        · rw [List.length_cons, Transcoder.nthRead, hread]
          exact hfailure
        · rw [List.length_cons, after, hread, ← hreached]
          exact hpaused
      · refine ⟨[], hready.symm, by simp, by simp, ?_, ?_⟩
        · rw [List.length_nil, Transcoder.nthRead, hread]
        · rw [List.length_nil, after, hread]
          exact hnext

/-! ## Reads after the failure -/

theorem Paused.read {decoder : Decoder} (h : t.Paused decoder (.failure message :: rest))
    {limit : Nat} (hlimit : 0 < limit) :
    ∃ next, t.read limit = (.error message, next) ∧ next.Paused decoder rest := by
  have hnone : Source.NeverFails [] := by simp [Source.NeverFails]
  have hstart : t.Interrupted [] message rest := ⟨h.source, hnone, h.ended, h.finished⟩
  have hready : t.ready [] = [] := by simp [ready, h.input, h.output]
  have hreached : t.reached [] = decoder := by simp [reached, h.input, h.decoder]
  rcases hstart.read limit with
    ⟨piece, next, later, _, _, hpiece, _, _, hsome⟩ | ⟨_, next, hread, hnext⟩
  · rw [hready, eq_comm, List.append_eq_nil_iff] at hpiece
    exact absurd hpiece.1 (hsome hlimit)
  · exact ⟨next, hread, hreached ▸ hnext⟩

/-- Failures that follow one another are passed on one by one, and then comes what the decoder makes
of the rest. -/
theorem Paused.nthRead {decoder : Decoder} {messages : List String} {source : Source}
    (h : t.Paused decoder (messages.map .failure ++ source)) (hsource : source.NeverFails)
    {sizes : Nat → Nat} (hsizes : ∀ index, 0 < sizes index) :
    ∃ pieces : List (List UInt8), pieces.flatten = Utf8.encode (decoder.text source.bytes) ∧
      (∀ piece ∈ pieces, piece ≠ []) ∧
      ∀ index, t.nthRead sizes index =
        (messages.map Except.error ++ pieces.map Except.ok).getD index (.ok []) := by
  induction messages generalizing t sizes with
  | nil =>
      have hconsistent : t.Consistent := fun ended => by simp [h.ended] at ended
      obtain ⟨pieces, hflatten, hpieces, hreads⟩ :=
        nthRead_eq_pieces hconsistent (by rw [h.source]; exact hsource) hsizes
      have hpending : t.pending = Utf8.encode (decoder.text source.bytes) := by
        simp [pending, h.output, h.finished, h.input, h.decoder, h.source]
      refine ⟨pieces, hflatten.trans hpending, hpieces, fun index => ?_⟩
      rw [(hreads index).1, List.map_nil, List.nil_append]
      rw [List.getD_eq_getElem?_getD, List.getD_eq_getElem?_getD, List.getElem?_map]
      cases pieces[index]? <;> rfl
  | cons message others ih =>
      obtain ⟨next, hread, hnext⟩ := Paused.read h (hsizes 0)
      obtain ⟨pieces, hflatten, hpieces, hreads⟩ := ih hnext fun index => hsizes (index + 1)
      refine ⟨pieces, hflatten, hpieces, fun index => ?_⟩
      cases index with
      | zero => rw [Transcoder.nthRead, hread]; rfl
      | succ index => rw [Transcoder.nthRead, hread]; exact hreads index

/-- **A failure loses nothing.**  However a source cuts the bytes before its failure and whatever
sizes the buffers of the reads have, the reads hand out the text of these bytes as far as it is
known (`Encoding.decodeSofar`), in pieces of which none is empty, and then the failure.  The text of
every continuation of these bytes begins with it.  When the source goes on, be it after further
failures, these are passed on one by one, and the reads after them hand out what is missing from the
text of all bytes: the text that comes when the same bytes are read without a failure. -/
theorem nthRead_of_failure (encoding : Encoding) {before : Source} (hbefore : before.NeverFails)
    (message : String) (rest : Source) {sizes : Nat → Nat} (hsizes : ∀ index, 0 < sizes index) :
    let t := ofSource encoding (before ++ .failure message :: rest)
    ∃ pieces : List (List UInt8),
      pieces.flatten = Utf8.encode (encoding.decodeSofar before.bytes) ∧
      (∀ more, pieces.flatten <+: Utf8.encode (encoding.decode (before.bytes ++ more))) ∧
      (∀ piece ∈ pieces, piece ≠ []) ∧
      (∀ index piece, pieces[index]? = some piece →
        t.nthRead sizes index = .ok piece ∧ piece.length ≤ sizes index) ∧
      t.nthRead sizes pieces.length = .error message ∧
      ∀ (messages : List String) (source : Source), rest = messages.map .failure ++ source →
        source.NeverFails →
        ∃ later whole : List (List UInt8),
          (∀ index, t.nthRead sizes (pieces.length + 1 + index) =
            (messages.map Except.error ++ later.map Except.ok).getD index (.ok [])) ∧
          (∀ piece ∈ later, piece ≠ []) ∧
          pieces.flatten ++ later.flatten =
            Utf8.encode (encoding.decode (before.bytes ++ source.bytes)) ∧
          pieces.flatten ++ later.flatten = whole.flatten ∧
          ∀ index, (ofSource encoding (before ++ source)).nthRead sizes index =
            .ok (whole.getD index []) := by
  intro t
  have hstart : t.Interrupted before message rest := ⟨rfl, hbefore, rfl, rfl⟩
  obtain ⟨pieces, hflatten, hpieces, hreads, hfailure, hpaused⟩ := hstart.nthRead hsizes
  have hready : t.ready before = Utf8.encode (encoding.decodeSofar before.bytes) := by
    rw [← Decoder.run_ofEncoding]
    rfl
  refine ⟨pieces, hflatten.trans hready, fun more => ?_, hpieces, hreads, hfailure, ?_⟩
  · obtain ⟨missing, hmissing⟩ := encoding.decodeSofar_prefix before.bytes more
    rw [hflatten, hready, ← hmissing, Utf8.encode_append]
    exact List.prefix_append _ _
  · rintro messages source rfl hsource
    obtain ⟨later, hlater, hlaterPieces, hlaterReads⟩ :=
      hpaused.nthRead hsource fun index => hsizes (pieces.length + 1 + index)
    have htotal : pieces.flatten ++ later.flatten =
        Utf8.encode (encoding.decode (before.bytes ++ source.bytes)) := by
      rw [hflatten, hlater, ← Decoder.text_ofEncoding, Decoder.text_append, Utf8.encode_append]
      rfl
    have hwhole : (before ++ source).NeverFails := fun other hother =>
      (List.mem_append.mp hother).elim (hbefore other) (hsource other)
    obtain ⟨whole, hwholeFlatten, _, hwholeReads⟩ :=
      nthRead_eq_pieces (consistent_ofSource encoding (before ++ source)) hwhole hsizes
    rw [pending_ofSource, Source.bytes_append] at hwholeFlatten
    refine ⟨later, whole, fun index => ?_, hlaterPieces, htotal, htotal.trans hwholeFlatten.symm,
      fun index => (hwholeReads index).1⟩
    rw [nthRead_add]
    exact hlaterReads index

end

attribute [local instance] NationalDecoders.asciiOnly

/-- Two failures between the surrogates of a pair. -/
theorem nthRead_of_failure_splitPair :
    let before : Source := [.bytes 0xff [0xfe, 0x41], .bytes 0x00 [0x3d, 0xd8]]
    let source : Source := [.bytes 0x00 [0xde]]
    let t := ofSource (.codePage .iso2)
      (before ++ .failure "lost" :: (["again"].map .failure ++ source))
    before.NeverFails ∧ source.NeverFails ∧ (∀ _ : Nat, 0 < 1) ∧
      ∃ pieces later : List (List UInt8), pieces.flatten = [0x41] ∧
        t.nthRead (fun _ => 1) pieces.length = .error "lost" ∧
        t.nthRead (fun _ => 1) (pieces.length + 1) = .error "again" ∧
        later.flatten = [0xf0, 0x9f, 0x98, 0x80] := by
  intro before source t
  have hbefore : before.NeverFails := by simp [Source.NeverFails, before]
  have hsource : source.NeverFails := by simp [Source.NeverFails, source]
  have hsizes : ∀ _ : Nat, 0 < 1 := fun _ => Nat.one_pos
  obtain ⟨pieces, hflatten, _, _, _, hfailure, hresumed⟩ :=
    nthRead_of_failure (.codePage .iso2) hbefore "lost" _ hsizes
  obtain ⟨later, _, hreads, _, htotal, _⟩ := hresumed ["again"] source rfl hsource
  have hpieces : pieces.flatten = [0x41] := hflatten.trans (by decide +kernel)
  have hlater : pieces.flatten ++ later.flatten = [0x41] ++ [0xf0, 0x9f, 0x98, 0x80] :=
    htotal.trans (by decide +kernel)
  rw [hpieces] at hlater
  exact ⟨hbefore, hsource, hsizes, pieces, later, hpieces, hfailure, hreads 0,
    List.append_cancel_left hlater⟩

end Transcoder

end BankStatement
