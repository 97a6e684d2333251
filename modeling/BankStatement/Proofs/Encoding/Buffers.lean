import BankStatement.Proofs.Encoding.Beginning
import BankStatement.Proofs.Encoding.Transcoding

/-!
# The buffers of a transcoder and the calls it makes

A transcoder stands between a source, which may not be read again after its end, and a decoder,
which may not be called again after it completed its text.  In between it has two buffers of fixed
size.  This file says what holds in every state that any reads lead to: the windows lie in their
buffers, the bytes of the source go through the decoder once and in order, both parties are called
as they may be, and every read comes to its end (`buffers_of_reached`).

## Strategy

A read is a loop, and `turn` is one turn of it, with the calls that are made in it; `turns` goes on
until there is a result.  Which calls are in order is said by `Orderly`, without a transcoder, as a
protocol that keeps the bytes that are handed out and not used; what follows for all calls together
is proved there, by induction on the protocol.  A transcoder follows the protocol, with its input
buffer and its two flags as the state of it.  This is part of the invariant `Accounted`, which is
preserved by each thing that a turn can do, and so by turns and reads.

The loop ends because the decoder is called in every turn that goes on, and each of its calls leaves
less to do (`work_decode_lt`).  Since reads never add to the work, this bounds the calls of the
decoder in all reads together (`Accounted.progress`).
-/

namespace BankStatement

/-! ## Windows in buffers -/

/-- Whether a window lies in the filled part of a buffer of some size. -/
structure Window.InRange (window : Window) (capacity : Nat) : Prop where
  position : window.position ≤ window.bytes.length
  filled : window.bytes.length ≤ capacity

theorem Window.inRange_ofBytes {bytes : List UInt8} {capacity : Nat}
    (h : bytes.length ≤ capacity) : (ofBytes bytes).InRange capacity :=
  ⟨Nat.zero_le _, h⟩

theorem Window.InRange.advance {window : Window} {capacity count : Nat}
    (h : window.InRange capacity) (hcount : count ≤ window.rest.length) :
    (window.advance count).InRange capacity := by
  have hposition := h.position
  rw [Window.rest, List.length_drop] at hcount
  refine ⟨?_, h.filled⟩
  show window.position + count ≤ window.bytes.length
  omega

/-- A read gives no more bytes than it may. -/
theorem Source.length_read_le {limit : Nat} {source rest : Source} {got : List UInt8}
    (h : source.read limit = (.ok got, rest)) : got.length ≤ limit := by
  match source with
  | [] =>
      obtain ⟨hgot, _⟩ := Prod.mk.inj h
      obtain rfl := Except.ok.inj hgot
      exact Nat.zero_le _
  | .failure _ :: _ => simp [read] at h
  | .bytes head tail :: others =>
      simp only [read] at h
      split at h <;> rename_i hleft <;> obtain ⟨hgot, _⟩ := Prod.mk.inj h <;>
        obtain rfl := Except.ok.inj hgot
      · exact List.drop_eq_nil_iff.mp hleft
      · exact List.length_take_le ..

namespace Transcoder

/-! ## Calls -/

/-- A call that a transcoder makes: a read of its source with what it gave, or a call of its decoder
with the bytes at hand, how many of them it used, whether it was told that they are the last ones,
and whether it completed its text. -/
inductive Call where
  | source (given : Except String (List UInt8))
  | decoder (bytes : List UInt8) (used : Nat) (last completed : Bool)

namespace Call

def readsSource : Call → Bool
  | source _ => true
  | decoder .. => false

/-- Whether the source says that it is at its end. -/
def endsSource : Call → Bool
  | source (.ok []) => true
  | _ => false

/-- Whether the decoder completes its text. -/
def completes : Call → Bool
  | source _ => false
  | decoder _ _ _ completed => completed

def bytesGiven : Call → List UInt8
  | source (.ok bytes) => bytes
  | _ => []

def bytesUsed : Call → List UInt8
  | source _ => []
  | decoder bytes used _ _ => bytes.take used

end Call

/-- The bytes that the source handed out. -/
def handedOut (calls : List Call) : List UInt8 :=
  calls.flatMap Call.bytesGiven

/-- The bytes that the decoder used. -/
def decoded (calls : List Call) : List UInt8 :=
  calls.flatMap Call.bytesUsed

/-- How often the decoder was called. -/
def decoderCalls (calls : List Call) : Nat :=
  calls.countP fun call => !call.readsSource

theorem handedOut_append_call (calls : List Call) (call : Call) :
    handedOut (calls ++ [call]) = handedOut calls ++ call.bytesGiven := by
  simp [handedOut]

theorem decoded_append_call (calls : List Call) (call : Call) :
    decoded (calls ++ [call]) = decoded calls ++ call.bytesUsed := by
  simp [decoded]

theorem decoderCalls_append_source (calls : List Call) (given : Except String (List UInt8)) :
    decoderCalls (calls ++ [.source given]) = decoderCalls calls := by
  simp [decoderCalls, Call.readsSource]

theorem decoderCalls_append_decoder (calls : List Call) (bytes : List UInt8) (used : Nat)
    (last completed : Bool) :
    decoderCalls (calls ++ [.decoder bytes used last completed]) = decoderCalls calls + 1 := by
  simp [decoderCalls, Call.readsSource]

/-- The calls that may be made of a source and of a decoder, with the bytes that are handed out and
not used, whether the source has ended, and whether the decoder has finished.  The source is read
only when all bytes are used, and the decoder is called only with all that are not, to make it use
some or to tell it of the end. -/
inductive Orderly : List Call → List UInt8 → (ended finished : Bool) → Prop
  | start : Orderly [] [] false false
  | failure {calls : List Call} (h : Orderly calls [] false false) (message : String) :
      Orderly (calls ++ [.source (.error message)]) [] false false
  | source {calls : List Call} (h : Orderly calls [] false false) {bytes : List UInt8}
      (hroom : bytes.length ≤ inputCapacity) :
      Orderly (calls ++ [.source (.ok bytes)]) bytes bytes.isEmpty false
  | decoder {calls : List Call} {bytes : List UInt8} {ended : Bool}
      (h : Orderly calls bytes ended false) (hcalled : bytes ≠ [] ∨ ended = true) {used : Nat}
      (hused : used ≤ bytes.length) {completed : Bool}
      (hcompleted : completed = true → ended = true ∧ bytes.drop used = []) :
      Orderly (calls ++ [.decoder bytes used ended completed]) (bytes.drop used) ended completed

namespace Orderly

variable {calls : List Call} {pending : List UInt8} {ended finished : Bool}

/-- The decoder uses the bytes of the source once and in order. -/
theorem handedOut_eq (h : Orderly calls pending ended finished) :
    handedOut calls = decoded calls ++ pending := by
  induction h with
  | start => rfl
  | failure _ _ ih | source _ _ ih | decoder _ _ _ _ ih =>
      simp [handedOut_append_call, decoded_append_call, Call.bytesGiven, Call.bytesUsed, ih]

theorem ended_eq (h : Orderly calls pending ended finished) :
    ended = calls.any Call.endsSource := by
  induction h with
  | start => rfl
  | failure _ _ ih | decoder _ _ _ _ ih => simp [Call.endsSource, ← ih]
  | @source calls _ bytes _ ih => cases bytes <;> simp [Call.endsSource, ← ih]

theorem finished_eq (h : Orderly calls pending ended finished) :
    finished = calls.any Call.completes := by
  induction h with
  | start => rfl
  | failure _ _ ih | source _ _ ih | decoder _ _ _ _ ih => simp [Call.completes, ← ih]

theorem of_finished (h : Orderly calls pending ended finished) (hfinished : finished = true) :
    ended = true ∧ pending = [] := by
  cases h with
  | start | failure | source => cases hfinished
  | decoder _ _ _ hcompleted => exact hcompleted hfinished

theorem pairwise_append_call {R : Call → Call → Prop} {call : Call} (h : calls.Pairwise R)
    (hlast : ∀ earlier ∈ calls, R earlier call) : (calls ++ [call]).Pairwise R := by
  simpa [List.pairwise_append, h] using hlast

/-- The source is not read again after its end. -/
theorem pairwise_source (h : Orderly calls pending ended finished) :
    calls.Pairwise fun earlier later => earlier.endsSource = true → later.readsSource = false := by
  induction h with
  | start => exact .nil
  | failure hcalls _ ih | source hcalls _ ih =>
      refine pairwise_append_call ih fun earlier hmem hends => ?_
      have hnone := List.any_eq_false.mp hcalls.ended_eq.symm
      exact absurd hends (hnone earlier hmem)
  | decoder _ _ _ _ ih => exact pairwise_append_call ih fun _ _ _ => rfl

/-- The decoder is not called again after it completed its text. -/
theorem pairwise_decoder (h : Orderly calls pending ended finished) :
    calls.Pairwise fun earlier later => earlier.completes = true → later.readsSource = true := by
  induction h with
  | start => exact .nil
  | failure _ _ ih | source _ _ ih => exact pairwise_append_call ih fun _ _ _ => rfl
  | decoder hcalls _ _ _ ih =>
      -- the decoder is called only while it has not finished, so no earlier call completed the text
      refine pairwise_append_call ih fun earlier hmem hcompletes => ?_
      have hnone := List.any_eq_false.mp hcalls.finished_eq.symm
      exact absurd hcompletes (hnone earlier hmem)

end Orderly

section

variable [NationalDecoders]

/-! ## Turns of the loop -/

/-- Whether the decoder completes its text when it is called. -/
def completes (t : Transcoder) : Bool :=
  let stretch := decodeWithin t.decoder outputCapacity t.input.rest
  t.ended ∧ (t.input.advance stretch.used).rest = [] ∧
    (stretch.text ++ Utf8.encode stretch.decoder.finish).length ≤ outputCapacity

/-- The call of the decoder with what is in the input buffer. -/
def decoderCall (t : Transcoder) : Call :=
  .decoder t.input.rest (decodeWithin t.decoder outputCapacity t.input.rest).used t.ended
    t.completes

/-- What some turns of the loop come to: the calls that were made, the transcoder after them, and
the result of the read, if there is one. -/
structure Turn where
  calls : List Call
  next : Transcoder
  result? : Option (Except String (List UInt8))

/-- One turn of the loop of a read. -/
def turn (t : Transcoder) (limit : Nat) : Turn :=
  if t.output.rest ≠ [] then
    ⟨[], { t with output := t.output.advance (min limit t.output.rest.length) },
      some (.ok (t.output.rest.take limit))⟩
  else if t.finished then ⟨[], t, some (.ok [])⟩
  else if t.input.rest = [] ∧ t.ended = false then
    match t.source.read inputCapacity with
    | (.error message, source) =>
        ⟨[.source (.error message)], { t with source }, some (.error message)⟩
    | (.ok bytes, source) =>
        ⟨[.source (.ok bytes), (t.refill bytes source).decoderCall],
          (t.refill bytes source).decode, none⟩
  else ⟨[t.decoderCall], t.decode, none⟩

/-- At most `count` turns of the loop, up to the first one that gives a result. -/
def turns (limit : Nat) : (count : Nat) → Transcoder → Turn
  | 0, t => ⟨[], t, none⟩
  | count + 1, t =>
      match (t.turn limit).result? with
      | some _ => t.turn limit
      | none =>
          let later := turns limit count (t.turn limit).next
          ⟨(t.turn limit).calls ++ later.calls, later.next, later.result?⟩

/-- The transcoders that turns of the loop lead to, in any number of reads with buffers of any
sizes, with the calls that were made on the way. -/
inductive Reached (encoding : Encoding) (source : Source) : List Call → Transcoder → Prop
  | start : Reached encoding source [] (ofSource encoding source)
  | turn {calls : List Call} {t : Transcoder} (h : Reached encoding source calls t) (limit : Nat) :
      Reached encoding source (calls ++ (t.turn limit).calls) (t.turn limit).next

/-! ### Reads are made of turns -/

section

variable {t : Transcoder} {limit : Nat}

theorem turns_of_result {result : Except String (List UInt8)}
    (h : (t.turn limit).result? = some result) (count : Nat) :
    turns limit (count + 1) t = t.turn limit := by
  rw [turns, h]

theorem turns_of_no_result (h : (t.turn limit).result? = none) (count : Nat) :
    turns limit (count + 1) t =
      ⟨(t.turn limit).calls ++ (turns limit count (t.turn limit).next).calls,
        (turns limit count (t.turn limit).next).next,
        (turns limit count (t.turn limit).next).result?⟩ := by
  rw [turns, h]

theorem Reached.turns {encoding : Encoding} {source : Source} {calls : List Call}
    (h : Reached encoding source calls t) (limit count : Nat) :
    Reached encoding source (calls ++ (turns limit count t).calls) (turns limit count t).next := by
  induction count generalizing calls t with
  | zero => simpa [Transcoder.turns] using h
  | succ count ih =>
      cases hresult : (t.turn limit).result? with
      | some result =>
          rw [turns_of_result hresult]
          exact h.turn limit
      | none =>
          rw [turns_of_no_result hresult, ← List.append_assoc]
          exact ih (h.turn limit)

/-- The decoder is called to use some bytes or to complete its text. -/
theorem called_of_not_empty (h : ¬(t.input.rest = [] ∧ t.ended = false)) :
    t.input.rest ≠ [] ∨ t.ended = true := by
  by_cases hrest : t.input.rest = []
  · exact .inr (by simpa [hrest] using h)
  · exact .inl hrest

theorem work_decode_lt_of_called (hcalled : t.input.rest ≠ [] ∨ t.ended = true)
    (hfinished : t.finished = false) : t.decode.work < t.work :=
  work_decode_lt (hcalled.imp_right fun hended => ⟨hended, hfinished⟩)

end

/-- With as many turns as there is work to do, and one more to hand out the result, the loop comes
to its end, and its result is that of the read. -/
theorem turns_eq_read (t : Transcoder) (limit : Nat) {count : Nat} (hcount : t.work ≤ count) :
    (turns limit (count + 1) t).result? = some (t.read limit).1 ∧
      (turns limit (count + 1) t).next = (t.read limit).2 := by
  fun_induction Transcoder.read t limit generalizing count with
  | case1 t houtput =>
      have hturn : t.turn limit = ⟨[], { t with
          output := t.output.advance (min limit t.output.rest.length) },
          some (.ok (t.output.rest.take limit))⟩ := by
        rw [turn, if_pos houtput]
      rw [turns_of_result (congrArg Turn.result? hturn), hturn]
      exact ⟨rfl, rfl⟩
  | case2 t houtput hfinished =>
      have hturn : t.turn limit = ⟨[], t, some (.ok [])⟩ := by
        rw [turn, if_neg houtput, if_pos hfinished]
      rw [turns_of_result (congrArg Turn.result? hturn), hturn]
      exact ⟨rfl, rfl⟩
  | case3 t houtput hfinished hempty message source htaken =>
      have hturn : t.turn limit =
          ⟨[.source (.error message)], { t with source }, some (.error message)⟩ := by
        rw [turn, if_neg houtput, if_neg hfinished, if_pos hempty, htaken]
      rw [turns_of_result (congrArg Turn.result? hturn), hturn]
      exact ⟨rfl, rfl⟩
  -- the turn goes on, with less to do
  | case4 t houtput hfinished hempty bytes source htaken ih =>
      have hturn : t.turn limit =
          ⟨[.source (.ok bytes), (t.refill bytes source).decoderCall],
            (t.refill bytes source).decode, none⟩ := by
        rw [turn, if_neg houtput, if_neg hfinished, if_pos hempty, htaken]
      have hless := Nat.lt_of_le_of_lt (work_decode_le _) (work_refill_lt htaken hempty.2)
      obtain ⟨more, rfl⟩ : ∃ more, count = more + 1 := ⟨count - 1, by omega⟩
      rw [turns_of_no_result (congrArg Turn.result? hturn), hturn]
      exact ih (by omega)
  | case5 t houtput hfinished hempty ih =>
      have hturn : t.turn limit = ⟨[t.decoderCall], t.decode, none⟩ := by
        rw [turn, if_neg houtput, if_neg hfinished, if_neg hempty]
      have hless := work_decode_lt_of_called (called_of_not_empty hempty) (by simpa using hfinished)
      obtain ⟨more, rfl⟩ : ∃ more, count = more + 1 := ⟨count - 1, by omega⟩
      rw [turns_of_no_result (congrArg Turn.result? hturn), hturn]
      exact ih (by omega)

/-! ## What decoding takes and gives -/

/-- Decoding uses a beginning of the bytes, gives no more text than has room, and leaves the decoder
as it is after the bytes that were used. -/
theorem decodeWithin_spec (decoder : Decoder) (room : Nat) (bytes : List UInt8) :
    (decodeWithin decoder room bytes).used ≤ bytes.length ∧
      (decodeWithin decoder room bytes).text.length ≤ room ∧
      (decodeWithin decoder room bytes).decoder =
        (decoder.run (bytes.take (decodeWithin decoder room bytes).used)).1 := by
  induction bytes generalizing decoder room with
  | nil => exact ⟨Nat.le_refl _, Nat.zero_le _, rfl⟩
  | cons byte rest ih =>
      rw [decodeWithin]
      split
      · next hroom =>
        obtain ⟨hused, htext, hdecoder⟩ := ih (decoder.step byte).1
          (room - (Utf8.encode (decoder.step byte).2).length)
        refine ⟨Nat.succ_le_succ hused, ?_, ?_⟩
        · rw [List.length_append]
          omega
        · rw [List.take_succ_cons, Decoder.run_cons]
          exact hdecoder
      · exact ⟨Nat.zero_le _, Nat.zero_le _, rfl⟩

section

variable {t : Transcoder}

theorem completes_iff :
    t.completes = true ↔ t.ended = true ∧
      (t.input.advance (decodeWithin t.decoder outputCapacity t.input.rest).used).rest = [] ∧
      ((decodeWithin t.decoder outputCapacity t.input.rest).text ++ Utf8.encode
        (decodeWithin t.decoder outputCapacity t.input.rest).decoder.finish).length ≤
          outputCapacity :=
  decide_eq_true_iff

theorem decode_input (t : Transcoder) : t.decode.input =
    t.input.advance (decodeWithin t.decoder outputCapacity t.input.rest).used := by
  simp only [decode]
  split <;> rfl

theorem decode_decoder (t : Transcoder) :
    t.decode.decoder = (decodeWithin t.decoder outputCapacity t.input.rest).decoder := by
  simp only [decode]
  split <;> rfl

theorem decode_finished (hfinished : t.finished = false) : t.decode.finished = t.completes := by
  simp only [decode]
  split
  · next h => exact (completes_iff.mpr h).symm
  · next h =>
    rw [← completes_iff, Bool.not_eq_true] at h
    exact hfinished.trans h.symm

/-- The text that is decoded fits in the output buffer, with the end of it when it is completed. -/
theorem inRange_decode_output (t : Transcoder) : t.decode.output.InRange outputCapacity := by
  simp only [decode]
  split
  · next h => exact Window.inRange_ofBytes h.2.2
  · exact Window.inRange_ofBytes (decodeWithin_spec ..).2.1

end

/-! ## The invariant -/

/-- What is known of a transcoder that began with a source and has made some calls. -/
structure Accounted (encoding : Encoding) (source : Source) (calls : List Call) (t : Transcoder) :
    Prop where
  orderly : Orderly calls t.input.rest t.ended t.finished
  input : t.input.InRange inputCapacity
  output : t.output.InRange outputCapacity
  handed : source.bytes = handedOut calls ++ t.source.bytes
  consistent : t.Consistent
  decoder : t.decoder = ((Decoder.ofEncoding encoding).run (decoded calls)).1
  progress : decoderCalls calls + t.work ≤ 2 * source.size + 2

namespace Accounted

variable {encoding : Encoding} {source : Source} {calls : List Call} {t : Transcoder}

theorem start (encoding : Encoding) (source : Source) :
    Accounted encoding source [] (ofSource encoding source) where
  orderly := .start
  input := Window.inRange_ofBytes (Nat.zero_le _)
  output := Window.inRange_ofBytes (Nat.zero_le _)
  handed := rfl
  consistent := consistent_ofSource encoding source
  decoder := rfl
  progress := Nat.le_of_eq (Nat.zero_add _)

/-- Text that is handed out comes from the output buffer. -/
theorem handOut (h : Accounted encoding source calls t) (limit : Nat) :
    Accounted encoding source calls
      { t with output := t.output.advance (min limit t.output.rest.length) } :=
  { h with output := h.output.advance (Nat.min_le_right ..) }

/-- The state of the protocol in which the source may be read. -/
theorem orderly_of_empty (h : Accounted encoding source calls t) (hfinished : t.finished = false)
    (hempty : t.input.rest = [] ∧ t.ended = false) : Orderly calls [] false false := by
  have horderly := h.orderly
  rwa [hempty.1, hempty.2, hfinished] at horderly

/-- When the source fails, no byte of it is lost. -/
theorem failure (h : Accounted encoding source calls t) (hfinished : t.finished = false)
    (hempty : t.input.rest = [] ∧ t.ended = false) {message : String} {rest : Source}
    (htaken : t.source.read inputCapacity = (.error message, rest)) :
    Accounted encoding source (calls ++ [.source (.error message)]) { t with source := rest } := by
  have hsource := Source.read_error htaken
  have hsize : t.source.size = 1 + rest.size := by rw [hsource, Source.size]
  have hprogress := h.progress
  refine ⟨?_, h.input, h.output, ?_, ?_, ?_, ?_⟩
  · show Orderly _ t.input.rest t.ended t.finished
    rw [hempty.1, hempty.2, hfinished]
    exact .failure (h.orderly_of_empty hfinished hempty) message
  · rw [h.handed, hsource, Source.bytes, handedOut_append_call]
    simp [Call.bytesGiven]
  · intro hended
    exact absurd hended (by simp [hempty.2])
  · simpa [decoded_append_call, Call.bytesUsed] using h.decoder
  · rw [decoderCalls_append_source]
    simp only [work, hsize] at hprogress ⊢
    omega

/-- What the source hands out goes to the input buffer. -/
theorem refill (h : Accounted encoding source calls t) (hfinished : t.finished = false)
    (hempty : t.input.rest = [] ∧ t.ended = false) {bytes : List UInt8} {rest : Source}
    (htaken : t.source.read inputCapacity = (.ok bytes, rest)) :
    Accounted encoding source (calls ++ [.source (.ok bytes)]) (t.refill bytes rest) := by
  have hroom := Source.length_read_le htaken
  have hless := work_refill_lt htaken hempty.2
  have hprogress := h.progress
  refine ⟨?_, Window.inRange_ofBytes hroom, h.output, ?_, .refill htaken, ?_, ?_⟩
  · show Orderly _ bytes bytes.isEmpty t.finished
    rw [hfinished]
    exact .source (h.orderly_of_empty hfinished hempty) hroom
  · rw [h.handed, Source.bytes_read htaken, handedOut_append_call, List.append_assoc]
    rfl
  · show t.decoder = _
    simpa [decoded_append_call, Call.bytesUsed] using h.decoder
  · rw [decoderCalls_append_source]
    omega

/-- What the decoder uses was at hand, and it is used up. -/
theorem decode (h : Accounted encoding source calls t) (hfinished : t.finished = false)
    (hcalled : t.input.rest ≠ [] ∨ t.ended = true) :
    Accounted encoding source (calls ++ [t.decoderCall]) t.decode := by
  obtain ⟨hused, _, hdecoder⟩ := decodeWithin_spec t.decoder outputCapacity t.input.rest
  have hless := work_decode_lt_of_called hcalled hfinished
  have hprogress := h.progress
  refine ⟨?_, ?_, inRange_decode_output t, ?_, h.consistent.decode, ?_, ?_⟩
  · have horderly := h.orderly
    rw [hfinished] at horderly
    rw [decode_input, Window.rest_advance, decode_ended, decode_finished hfinished]
    refine .decoder horderly hcalled hused fun hcompletes => ?_
    obtain ⟨hended, hrest, _⟩ := completes_iff.mp hcompletes
    exact ⟨hended, by rwa [Window.rest_advance] at hrest⟩
  · rw [decode_input]
    exact h.input.advance hused
  · rw [h.handed, decode_source, handedOut_append_call]
    simp [decoderCall, Call.bytesGiven]
  · calc t.decode.decoder
        = (t.decoder.run t.decoderCall.bytesUsed).1 := (decode_decoder t).trans hdecoder
      _ = (((Decoder.ofEncoding encoding).run (decoded calls)).1.run
            t.decoderCall.bytesUsed).1 := by
          rw [← h.decoder]
      _ = ((Decoder.ofEncoding encoding).run (decoded (calls ++ [t.decoderCall]))).1 := by
          rw [decoded_append_call, Decoder.run_append]
  · rw [decoderCall, decoderCalls_append_decoder]
    omega

/-- Every turn of the loop keeps the invariant. -/
theorem turn (h : Accounted encoding source calls t) (limit : Nat) :
    Accounted encoding source (calls ++ (t.turn limit).calls) (t.turn limit).next := by
  unfold Transcoder.turn
  split
  · rw [List.append_nil]
    exact h.handOut limit
  · split
    · rw [List.append_nil]
      exact h
    · next hfinished =>
      rw [Bool.not_eq_true] at hfinished
      split
      · next hempty =>
        split
        · next message rest htaken => exact h.failure hfinished hempty htaken
        · next bytes rest htaken =>
          -- the decoder gets what was handed out, or learns that there is no more
          have hcalled : (t.refill bytes rest).input.rest ≠ [] ∨
              (t.refill bytes rest).ended = true := by
            cases bytes <;> simp [Transcoder.refill]
          have hdecode := (h.refill hfinished hempty htaken).decode hfinished hcalled
          rwa [List.append_assoc] at hdecode
      · next hempty => exact h.decode hfinished (called_of_not_empty hempty)

end Accounted

/-! ## States that reads lead to -/

section

variable {encoding : Encoding} {source : Source} {calls : List Call} {t : Transcoder}

theorem Reached.accounted (h : Reached encoding source calls t) :
    Accounted encoding source calls t := by
  induction h with
  | start => exact .start encoding source
  | turn _ limit ih => exact ih.turn limit

/-- When the decoder has completed its text, it has used all bytes of the source. -/
theorem Accounted.decoded_of_finished (h : Accounted encoding source calls t)
    (hfinished : t.finished = true) : decoded calls = source.bytes := by
  obtain ⟨hended, hrest⟩ := h.orderly.of_finished hfinished
  rw [h.handed, h.orderly.handedOut_eq, hrest, h.consistent hended, Source.bytes_nil,
    List.append_nil, List.append_nil]

/-- **Buffers, calls and progress of a transcoder.**  Take any transcoder that turns of the loop
lead to, in reads of any sizes over any source, with failures or without.  Its windows lie in the
filled parts of their buffers, so what is cut out of these is there.  What the source handed out is
what it held before; the decoder has used each of these bytes once and in order, all but those in
the input buffer, and all bytes of the source when it has completed its text.  The source has not
been read after its end, nor the decoder called after it completed its text.  Every further read
comes to its end, after no more turns than a number that the source alone gives, and the state it
leaves is again one that is reached. -/
theorem buffers_of_reached (h : Reached encoding source calls t) :
    t.input.InRange 8192 ∧ t.output.InRange 24576 ∧
    (source.bytes = handedOut calls ++ t.source.bytes ∧
      handedOut calls = decoded calls ++ t.input.rest ∧
      t.decoder = ((Decoder.ofEncoding encoding).run (decoded calls)).1 ∧
      (t.finished = true → decoded calls = source.bytes)) ∧
    (t.ended = calls.any Call.endsSource ∧
      calls.Pairwise fun earlier later => earlier.endsSource = true → later.readsSource = false) ∧
    (t.finished = calls.any Call.completes ∧
      calls.Pairwise fun earlier later => earlier.completes = true → later.readsSource = true) ∧
    decoderCalls calls ≤ 2 * source.size + 2 ∧
    ∀ limit, ∃ made,
      turns limit (2 * source.size + 3) t = ⟨made, (t.read limit).2, some (t.read limit).1⟩ ∧
        Reached encoding source (calls ++ made) (t.read limit).2 := by
  have hstate := h.accounted
  have hprogress := hstate.progress
  refine ⟨hstate.input, hstate.output,
    ⟨hstate.handed, hstate.orderly.handedOut_eq, hstate.decoder, hstate.decoded_of_finished⟩,
    ⟨hstate.orderly.ended_eq, hstate.orderly.pairwise_source⟩,
    ⟨hstate.orderly.finished_eq, hstate.orderly.pairwise_decoder⟩, by omega, fun limit => ?_⟩
  have hwork : t.work ≤ 2 * source.size + 2 := by omega
  obtain ⟨hresult, hnext⟩ := turns_eq_read t limit hwork
  have hreached := h.turns limit (2 * source.size + 3)
  rw [hnext] at hreached
  exact ⟨_, by rw [← hresult, ← hnext], hreached⟩

end

end

attribute [local instance] NationalDecoders.asciiOnly

/-- A source that fails inside a byte order mark, read to its end: the decoder withholds the first
byte, learns from the second one that the units are in the other order, and completes its text with
half a unit. -/
theorem buffers_of_reached_splitMark :
    let source : Source := [.bytes 0xff [], .failure "lost", .bytes 0xfe [0x41]]
    let calls : List Call :=
      [.source (.ok [0xff]), .decoder [0xff] 1 false false, .source (.error "lost"),
        .source (.ok [0xfe, 0x41]), .decoder [0xfe, 0x41] 2 false false, .source (.ok []),
        .decoder [] 0 true true]
    ∃ t, Reached (.utf16 .highFirst) source calls t ∧ t.finished = true ∧
      decoded calls = source.bytes ∧ t.output.InRange 24576 := by
  intro source calls
  let withheld : Transcoder := ⟨[.failure "lost", .bytes 0xfe [0x41]],
    .sniffing (.utf16 .highFirst) .ff, ⟨[0xff], 1⟩, .ofBytes [], false, false⟩
  let resumed : Transcoder := { withheld with source := [.bytes 0xfe [0x41]] }
  let marked : Transcoder := ⟨[], .reading (.utf16 .lowFirst (some 0x41) none), ⟨[0xfe, 0x41], 2⟩,
    .ofBytes [], false, false⟩
  let completed : Transcoder := ⟨[], .reading (.utf16 .lowFirst (some 0x41) none), .ofBytes [],
    .ofBytes [0xef, 0xbf, 0xbd], true, true⟩
  have hwithheld : Reached (.utf16 .highFirst) source (calls.take 2) withheld :=
    Reached.start.turn 0
  have hresumed : Reached (.utf16 .highFirst) source (calls.take 3) resumed := hwithheld.turn 5
  have hmarked : Reached (.utf16 .highFirst) source (calls.take 5) marked := hresumed.turn 0
  have hcompleted : Reached (.utf16 .highFirst) source calls completed := hmarked.turn 1
  obtain ⟨_, houtput, ⟨_, _, _, hdecoded⟩, _⟩ := buffers_of_reached hcompleted
  exact ⟨completed, hcompleted, rfl, hdecoded rfl, houtput⟩

end Transcoder

end BankStatement
