import BankStatement.Encoding.Decoder
import BankStatement.Source

/-!
# Transcoding a source

A transcoder reads a source in some encoding and is itself read as UTF-8.  It keeps a buffer of
bytes taken from the source and one of text not yet handed out, both of limited size.  A failure of
the source is passed on and leaves everything else in place, so that reading can go on after it.
-/

namespace BankStatement

/-- Bytes of which those before `position` are used up. -/
structure Window where
  bytes : List UInt8
  position : Nat
deriving DecidableEq, Repr

namespace Window

/-- A window of bytes none of which is used. -/
def ofBytes (bytes : List UInt8) : Window := ⟨bytes, 0⟩

/-- The bytes not used up. -/
def rest (window : Window) : List UInt8 :=
  window.bytes.drop window.position

/-- The window with `count` more bytes used up. -/
def advance (window : Window) (count : Nat) : Window :=
  { window with position := window.position + count }

@[simp] theorem rest_ofBytes (bytes : List UInt8) : (ofBytes bytes).rest = bytes := rfl

@[simp] theorem rest_advance (window : Window) (count : Nat) :
    (window.advance count).rest = window.rest.drop count := by
  simp [rest, advance]

end Window

namespace Transcoder

/-- The most bytes that are taken from the source at once. -/
def inputCapacity : Nat := 8192

/-- The most bytes of text that are kept. -/
def outputCapacity : Nat := 3 * inputCapacity

end Transcoder

variable [NationalDecoders]

/-- The state of a transcoder.  `ended` says that the source has been read to its end, and
`finished` that the decoder has been told so. -/
structure Transcoder where
  source : Source
  decoder : Decoder
  input : Window
  output : Window
  ended : Bool
  finished : Bool

namespace Transcoder

/-- A transcoder before its first read. -/
def ofSource (encoding : Encoding) (source : Source) : Transcoder where
  source := source
  decoder := .ofEncoding encoding
  input := .ofBytes []
  output := .ofBytes []
  ended := false
  finished := false

/-! ## Decoding what is at hand -/

/-- What decoding a stretch of input gives: the decoder after it, how many bytes were used and
their text. -/
structure Stretch where
  decoder : Decoder
  used : Nat
  text : List UInt8

/-- Decodes as many bytes as have room for their text. -/
def decodeWithin (decoder : Decoder) (room : Nat) : List UInt8 → Stretch
  | [] => ⟨decoder, 0, []⟩
  | byte :: rest =>
      let text := Utf8.encode (decoder.step byte).2
      if text.length ≤ room then
        let more := decodeWithin (decoder.step byte).1 (room - text.length) rest
        ⟨more.decoder, more.used + 1, text ++ more.text⟩
      else ⟨decoder, 0, []⟩

/-- The transcoder after decoding the rest of the input buffer into an empty output buffer.  When
the source is at its end and the input is used up, the decoder completes its text. -/
def decode (t : Transcoder) : Transcoder :=
  let stretch := decodeWithin t.decoder outputCapacity t.input.rest
  let input := t.input.advance stretch.used
  let whole := stretch.text ++ Utf8.encode stretch.decoder.finish
  if t.ended ∧ input.rest = [] ∧ whole.length ≤ outputCapacity then
    { t with decoder := stretch.decoder, input, output := .ofBytes whole, finished := true }
  else { t with decoder := stretch.decoder, input, output := .ofBytes stretch.text }

/-- The transcoder with new input from the source, of which the rest is `source`.  No bytes mean
that the source is at its end. -/
def refill (t : Transcoder) (bytes : List UInt8) (source : Source) : Transcoder :=
  { t with source, input := .ofBytes bytes, ended := bytes.isEmpty }

/-! ## What is left to do -/

/-- A bound on the rounds of decoding that are left.  A byte counts once before it is decoded and
once more before it is taken from the source. -/
def work (t : Transcoder) : Nat :=
  2 * t.source.size + t.input.rest.length + (!t.ended).toNat + (!t.finished).toNat

theorem decodeWithin_used_pos (decoder : Decoder) (byte : UInt8) (rest : List UInt8) :
    0 < (decodeWithin decoder outputCapacity (byte :: rest)).used := by
  have hchars := decoder.length_step_le byte
  have hbytes := Utf8.length_encode_le (decoder.step byte).2
  have hfits : (Utf8.encode (decoder.step byte).2).length ≤ outputCapacity := by
    simp only [outputCapacity, inputCapacity]
    omega
  simp [decodeWithin, hfits]

/-- Decoding uses up input, or finishes when there is none. -/
theorem work_decode_lt {t : Transcoder}
    (h : t.input.rest ≠ [] ∨ t.ended = true ∧ t.finished = false) : t.decode.work < t.work := by
  cases hrest : t.input.rest with
  | cons byte more =>
      have hused := decodeWithin_used_pos t.decoder byte more
      simp only [decode, hrest]
      split
      · simp only [work, Window.rest_advance, hrest, List.length_drop, List.length_cons,
          Bool.not_true, Bool.toNat_false]
        omega
      · simp only [work, Window.rest_advance, hrest, List.length_drop, List.length_cons]
        omega
  | nil =>
      obtain ⟨hended, hfinished⟩ := h.resolve_left fun hne => hne hrest
      have hchars := t.decoder.length_finish_le
      have hbytes := Utf8.length_encode_le t.decoder.finish
      have hfits : (Utf8.encode t.decoder.finish).length ≤ outputCapacity := by
        simp only [outputCapacity, inputCapacity]
        omega
      simp [decode, decodeWithin, work, hrest, hended, hfinished, hfits]

theorem work_decode_le (t : Transcoder) : t.decode.work ≤ t.work := by
  simp only [decode]
  split
  · simp only [work, Window.rest_advance, List.length_drop, Bool.not_true, Bool.toNat_false]
    omega
  · simp only [work, Window.rest_advance, List.length_drop]
    omega

/-- Taking input from the source halves the count of its bytes, or notes its end. -/
theorem work_refill_lt {t : Transcoder} {bytes : List UInt8} {source : Source}
    (hread : t.source.read inputCapacity = (.ok bytes, source)) (hended : t.ended = false) :
    (t.refill bytes source).work < t.work := by
  have hsize := Source.size_read inputCapacity t.source
  rw [hread] at hsize
  cases bytes with
  | nil =>
      simp only [List.length_nil, Nat.add_zero] at hsize
      simp only [refill, work, hended, hsize, Window.rest_ofBytes, List.length_nil,
        List.isEmpty_nil, Bool.not_true, Bool.not_false, Bool.toNat_false, Bool.toNat_true]
      omega
  | cons byte rest =>
      simp only [List.length_cons] at hsize
      simp only [refill, work, hended, Window.rest_ofBytes, List.length_cons, List.isEmpty_cons]
      omega

/-! ## Reading -/

/-- A read of at most `limit` bytes of text.  No bytes mean the end of the text. -/
def read (t : Transcoder) (limit : Nat) : Except String (List UInt8) × Transcoder :=
  if t.output.rest ≠ [] then
    (.ok (t.output.rest.take limit),
      { t with output := t.output.advance (min limit t.output.rest.length) })
  else if _hfinished : t.finished then (.ok [], t)
  else if _hempty : t.input.rest = [] ∧ t.ended = false then
    match _hread : t.source.read inputCapacity with
    | (.error message, source) => (.error message, { t with source })
    | (.ok bytes, source) => read (t.refill bytes source).decode limit
  else read t.decode limit
termination_by t.work
decreasing_by
  · exact Nat.lt_of_le_of_lt (work_decode_le _) (work_refill_lt _hread _hempty.2)
  · refine work_decode_lt ?_
    by_cases hrest : t.input.rest = []
    · exact .inr ⟨by simpa [hrest] using _hempty, by simpa using _hfinished⟩
    · exact .inl hrest

/-- A read that gives text or fails leaves less to do, or less text to hand out. -/
theorem read_decreases (t : Transcoder) (limit : Nat) :
    (t.read limit).1 = .ok [] ∨ (t.read limit).2.work < t.work ∨
      (t.read limit).2.work = t.work ∧
        (t.read limit).2.output.rest.length < t.output.rest.length := by
  fun_induction read t limit with
  | case1 t houtput =>
      by_cases hlimit : limit = 0
      · exact .inl (by simp [hlimit])
      · refine .inr (.inr ⟨rfl, ?_⟩)
        have hpositive := List.length_pos_iff.2 houtput
        simp only [Window.rest_advance, List.length_drop]
        omega
  | case2 => exact .inl rfl
  | case3 t _ _ _ message source hread =>
      have hsize := Source.size_read inputCapacity t.source
      rw [hread] at hsize
      refine .inr (.inl ?_)
      simp only [work] at hsize ⊢
      omega
  | case4 t _ _ hempty bytes source hread ih =>
      have hless := Nat.lt_of_le_of_lt (work_decode_le _) (work_refill_lt hread hempty.2)
      rcases ih with hdone | hlater | ⟨hsame, _⟩
      · exact .inl hdone
      · exact .inr (.inl (Nat.lt_trans hlater hless))
      · exact .inr (.inl (hsame ▸ hless))
  | case5 t houtput hfinished hempty ih =>
      have hless : t.decode.work < t.work := by
        refine work_decode_lt ?_
        by_cases hrest : t.input.rest = []
        · exact .inr ⟨by simpa [hrest] using hempty, by simpa using hfinished⟩
        · exact .inl hrest
      rcases ih with hdone | hlater | ⟨hsame, _⟩
      · exact .inl hdone
      · exact .inr (.inl (Nat.lt_trans hlater hless))
      · exact .inr (.inl (hsame ▸ hless))

/-- The source that a transcoder is, when it is read `limit` bytes at a time to its end. -/
def toSource (limit : Nat) (t : Transcoder) : Source :=
  match _hread : t.read limit with
  | (.error message, next) => .failure message :: toSource limit next
  | (.ok [], _) => []
  | (.ok (head :: tail), next) => .bytes head tail :: toSource limit next
termination_by (t.work, t.output.rest.length)
decreasing_by
  all_goals
    have hdecreases := t.read_decreases limit
    rw [_hread] at hdecreases
    simp only [reduceCtorEq, Except.ok.injEq, false_or] at hdecreases
    rcases hdecreases with hless | ⟨hsame, hless⟩
    · exact Prod.Lex.left _ _ hless
    · exact hsame ▸ Prod.Lex.right _ hless

end Transcoder

end BankStatement
