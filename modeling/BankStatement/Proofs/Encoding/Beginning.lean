import BankStatement.Proofs.Encoding.Decoding

/-!
# The text of the beginning of an input

While an input is not at its end, some of its bytes have no text yet: the first bytes of what may
become a byte order mark, the first byte of a 16-bit unit, a high surrogate, a character of UTF-8
that is not complete.  `Encoding.decodeSofar` is the text of all other bytes, defined in one go like
the text of a whole input, and it differs from that in the last few bytes only.  A decoder has
handed out exactly this text (`Decoder.run_ofEncoding`), whatever comes next, so it is how the text
of every continuation begins (`Encoding.decodeSofar_prefix`).
-/

namespace BankStatement

/-- The characters that bytes complete, from a state on, when more bytes may follow. -/
def Utf8.readSofar (state : State) : List UInt8 → List (Option Char)
  | [] => []
  | byte :: rest => (step state byte).2 ++ readSofar (step state byte).1 rest

namespace Encoding

/-- The text of 16-bit units when more bytes may follow: an incomplete unit, or a surrogate pair of
which the second unit is not complete, has no text yet. -/
def utf16TextSofar (order : ByteOrder) : List UInt8 → List Char
  | [] => []
  | [_] => []
  | first :: second :: rest =>
      let unit := Reader.unitOf order first second
      if Text.isHighSurrogate unit then
        match rest with
        | third :: fourth :: after =>
            let next := Reader.unitOf order third fourth
            if Text.isLowSurrogate next then
              Text.ofSurrogates unit next :: utf16TextSofar order after
            else Utf8.replacement :: utf16TextSofar order (third :: fourth :: after)
        | _ => []
      else if Text.isLowSurrogate unit then Utf8.replacement :: utf16TextSofar order rest
      else Char.ofNat unit :: utf16TextSofar order rest
termination_by bytes => bytes.length
decreasing_by all_goals simp only [List.length_cons]; omega

theorem utf16TextSofar_of_not_high {order : ByteOrder} {first second : UInt8} (rest : List UInt8)
    (h : Text.isHighSurrogate (Reader.unitOf order first second) = false) :
    utf16TextSofar order (first :: second :: rest) =
      (Reader.loneUnit (Reader.unitOf order first second)).2 ++ utf16TextSofar order rest := by
  rw [utf16TextSofar.eq_def]
  simp only [h, Bool.false_eq_true, if_false, Reader.loneUnit]
  split <;> rfl

theorem utf16TextSofar_of_high {order : ByteOrder} {first second : UInt8} (third fourth : UInt8)
    (rest : List UInt8) (h : Text.isHighSurrogate (Reader.unitOf order first second) = true) :
    utf16TextSofar order (first :: second :: third :: fourth :: rest) =
      if Text.isLowSurrogate (Reader.unitOf order third fourth) then
        Text.ofSurrogates (Reader.unitOf order first second) (Reader.unitOf order third fourth) ::
          utf16TextSofar order rest
      else Utf8.replacement :: utf16TextSofar order (third :: fourth :: rest) := by
  rw [utf16TextSofar.eq_def]
  simp only [h, if_true]

variable [NationalDecoders]

/-- The text of the beginning of an input in an encoding, marks aside. -/
def textSofar : Encoding → List UInt8 → List Char
  | utf16 order, bytes => utf16TextSofar order bytes
  | switched, bytes => ((Reader.switched .initial).run bytes).2
  | national set, bytes => ((Reader.national set (NationalDecoders.initial set)).run bytes).2
  | encoding, bytes => encoding.textOf bytes

/-- The text of the beginning of an input in an encoding, unless a byte order mark says otherwise.
There is none while the bytes may become a mark. -/
def decodeSofar (encoding : Encoding) (bytes : List UInt8) : List Char :=
  match bytes with
  | 0xef :: 0xbb :: 0xbf :: rest =>
      (Utf8.readSofar .between rest).map fun c => c.getD Utf8.replacement
  | 0xfe :: 0xff :: rest => utf16TextSofar .highFirst rest
  | 0xff :: 0xfe :: rest => utf16TextSofar .lowFirst rest
  | [] | [0xef] | [0xef, 0xbb] | [0xfe] | [0xff] => []
  | _ => encoding.textSofar bytes

end Encoding

/-! ## Readers -/

variable [NationalDecoders]

namespace Reader

@[simp] theorem run_cons (reader : Reader) (byte : UInt8) (rest : List UInt8) :
    reader.run (byte :: rest) = (((reader.step byte).1.run rest).1,
      (reader.step byte).2 ++ ((reader.step byte).1.run rest).2) := rfl

theorem run_append (reader : Reader) (first second : List UInt8) :
    reader.run (first ++ second) = (((reader.run first).1.run second).1,
      (reader.run first).2 ++ ((reader.run first).1.run second).2) := by
  induction first generalizing reader with
  | nil => rfl
  | cons byte rest ih => simp [ih]

/-- Whether a reader is one of those that give a byte its text at once and hold nothing back. -/
def holdsNothing : Reader → Bool
  | codePage _ | userDefined | refused _ => true
  | utf8 _ | utf16 .. | switched _ | national .. => false

/-- A reader that holds nothing back has handed out all of the text. -/
theorem run_of_holdsNothing {reader : Reader} (h : reader.holdsNothing = true)
    (bytes : List UInt8) : (reader.run bytes).2 = reader.text bytes := by
  induction bytes generalizing reader with
  | nil => cases reader <;> first | rfl | cases h
  | cons byte rest ih =>
      have hnext : (reader.step byte).1.holdsNothing = true := by
        cases reader <;> first | rfl | cases h
      rw [run_cons, text_cons, ih hnext]

theorem run_utf8 (state : Utf8.State) (bytes : List UInt8) :
    ((utf8 state).run bytes).2 =
      (Utf8.readSofar state bytes).map fun c => c.getD Utf8.replacement := by
  induction bytes generalizing state with
  | nil => rfl
  | cons byte rest ih => simp [step, Utf8.readSofar, ih]

/-- Unit by unit, without a pending surrogate and with one, as for whole inputs
(`text_utf16_both`). -/
theorem run_utf16_both (order : ByteOrder) :
    ∀ bytes : List UInt8,
      ((utf16 order none none).run bytes).2 = Encoding.utf16TextSofar order bytes ∧
      ∀ first second : UInt8, Text.isHighSurrogate (unitOf order first second) = true →
        ((utf16 order none (some (unitOf order first second))).run bytes).2 =
          Encoding.utf16TextSofar order (first :: second :: bytes)
  | [] => by
      refine ⟨by simp [run, Encoding.utf16TextSofar], fun first second hhigh => ?_⟩
      simp [run, Encoding.utf16TextSofar, hhigh]
  | [byte] => by
      refine ⟨by simp [run, step, Encoding.utf16TextSofar], fun first second hhigh => ?_⟩
      simp [run, step, Encoding.utf16TextSofar, hhigh]
  | third :: fourth :: rest => by
      obtain ⟨hplain, hpending⟩ := run_utf16_both order rest
      -- a unit that is read with nothing pending, high surrogates included
      have hlone : (loneUnit (unitOf order third fourth)).2 ++
          ((utf16 order none (loneUnit (unitOf order third fourth)).1).run rest).2 =
            Encoding.utf16TextSofar order (third :: fourth :: rest) := by
        cases hhigh : Text.isHighSurrogate (unitOf order third fourth) with
        | true => simpa [loneUnit, hhigh] using hpending third fourth hhigh
        | false =>
            have hnone : (loneUnit (unitOf order third fourth)).1 = none := by
              simp only [loneUnit, hhigh, Bool.false_eq_true, if_false]
              split <;> rfl
            rw [hnone, hplain, Encoding.utf16TextSofar_of_not_high rest hhigh]
      refine ⟨by simpa [step, unitStep] using hlone, fun first second hhigh => ?_⟩
      rw [Encoding.utf16TextSofar_of_high third fourth rest hhigh]
      simp only [run_cons, step, unitStep, List.nil_append]
      split
      · simp [hplain]
      · simp [hlone]

/-- In every encoding the first state hands out the text of the beginning. -/
theorem run_ofEncoding (encoding : Encoding) (bytes : List UInt8) :
    ((ofEncoding encoding).run bytes).2 = encoding.textSofar bytes := by
  cases encoding with
  | utf16 order => exact (run_utf16_both order bytes).1
  | codePage | userDefined | refused =>
      exact (run_of_holdsNothing rfl bytes).trans (text_ofEncoding _ bytes)
  | switched | national => rfl

end Reader

/-! ## Decoders -/

namespace Decoder

/-- The decoder after several bytes, with the characters they complete. -/
def run (decoder : Decoder) : List UInt8 → Decoder × List Char
  | [] => (decoder, [])
  | byte :: rest =>
      let (next, text) := decoder.step byte
      let (last, more) := run next rest
      (last, text ++ more)

@[simp] theorem run_nil (decoder : Decoder) : decoder.run [] = (decoder, []) := rfl

@[simp] theorem run_cons (decoder : Decoder) (byte : UInt8) (rest : List UInt8) :
    decoder.run (byte :: rest) = (((decoder.step byte).1.run rest).1,
      (decoder.step byte).2 ++ ((decoder.step byte).1.run rest).2) := rfl

theorem run_append (decoder : Decoder) (first second : List UInt8) :
    decoder.run (first ++ second) = (((decoder.run first).1.run second).1,
      (decoder.run first).2 ++ ((decoder.run first).1.run second).2) := by
  induction first generalizing decoder with
  | nil => rfl
  | cons byte rest ih => simp [ih]

/-- Decoding can stop and go on anywhere. -/
theorem text_append (decoder : Decoder) (first second : List UInt8) :
    decoder.text (first ++ second) =
      (decoder.run first).2 ++ (decoder.run first).1.text second := by
  induction first generalizing decoder with
  | nil => rfl
  | cons byte rest ih =>
      rw [List.cons_append, text, ih, run_cons, List.append_assoc]

@[simp] theorem run_reading (reader : Reader) (bytes : List UInt8) :
    (reading reader).run bytes = (reading (reader.run bytes).1, (reader.run bytes).2) := by
  induction bytes generalizing reader with
  | nil => rfl
  | cons byte rest ih => simp [step, ih]

theorem decodeSofar_of_complete {encoding : Encoding} {withheld : MarkStart} {byte : UInt8}
    {reader : Reader} (h : withheld.next byte = .complete reader) (rest : List UInt8) :
    encoding.decodeSofar (withheld.bytes ++ byte :: rest) = (reader.run rest).2 := by
  unfold MarkStart.next at h
  split at h <;> simp only [MarkProgress.complete.injEq, reduceCtorEq] at h <;> subst h
  · exact (Reader.run_utf8 .between rest).symm
  · exact (Reader.run_utf16_both .highFirst rest).1.symm
  · exact (Reader.run_utf16_both .lowFirst rest).1.symm

theorem decodeSofar_of_noMark {encoding : Encoding} {withheld : MarkStart} {byte : UInt8}
    (h : withheld.next byte = .noMark) (rest : List UInt8) :
    encoding.decodeSofar (withheld.bytes ++ byte :: rest) =
      encoding.textSofar (withheld.bytes ++ byte :: rest) := by
  unfold Encoding.decodeSofar
  split
  all_goals cases withheld <;> simp_all [MarkStart.bytes, MarkStart.next]

/-- Bytes that may still become a mark have no text yet. -/
theorem run_sniffing (encoding : Encoding) (withheld : MarkStart) (bytes : List UInt8) :
    ((sniffing encoding withheld).run bytes).2 =
      encoding.decodeSofar (withheld.bytes ++ bytes) := by
  induction bytes generalizing withheld with
  | nil => cases withheld <;> rfl
  | cons byte rest ih =>
      cases h : withheld.next byte with
      | longer start =>
          rw [run_cons]
          simp only [step, h, List.nil_append]
          rw [ih, bytes_of_longer h, List.append_assoc]
          rfl
      | complete reader =>
          rw [decodeSofar_of_complete h, run_cons]
          simp [step, h]
      | noMark =>
          have hcut : withheld.bytes ++ byte :: rest = withheld.bytes ++ [byte] ++ rest := by simp
          rw [decodeSofar_of_noMark h, ← Reader.run_ofEncoding, hcut, Reader.run_append, run_cons]
          simp [step, h]

/-- **What a decoder hands out of the beginning of an input** is the text that does not depend on
what follows. -/
theorem run_ofEncoding (encoding : Encoding) (bytes : List UInt8) :
    ((ofEncoding encoding).run bytes).2 = encoding.decodeSofar bytes :=
  run_sniffing encoding .nothing bytes

end Decoder

/-- The text of every continuation begins with the text of the beginning. -/
theorem Encoding.decodeSofar_prefix (encoding : Encoding) (bytes more : List UInt8) :
    encoding.decodeSofar bytes <+: encoding.decode (bytes ++ more) := by
  rw [← Decoder.run_ofEncoding, ← Decoder.text_ofEncoding, Decoder.text_append]
  exact List.prefix_append _ _

end BankStatement
