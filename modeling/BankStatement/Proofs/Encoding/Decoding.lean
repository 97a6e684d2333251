import BankStatement.Encoding.WholeText

/-!
# Decoding byte by byte is decoding in one go

`Encoding/Decoder.lean` decodes a byte at a time and withholds what may still become something
else: the first bytes of a byte order mark, the first byte of a 16-bit unit, a high surrogate.
`Encoding/WholeText.lean` defines the text of a whole input without any of these states.  Here the
two are shown to be the same text, with the end of the input included.

The text that is still to come is a function of the state and of the bytes that are left
(`Reader.text`, `Decoder.text`).  For each encoding it is the whole text at the first state; the
only states that need a statement of their own are a pending high surrogate, which stands for the
two bytes it was made of, and the withheld bytes of a mark, which stand for themselves.  The text of
switched and of national sets is that of their readers, whatever these are.
-/

namespace BankStatement

/-! ## UTF-16 -/

namespace Reader

theorem utf16Text_of_not_high {order : ByteOrder} {first second : UInt8} (rest : List UInt8)
    (h : Text.isHighSurrogate (unitOf order first second) = false) :
    Encoding.utf16Text order (first :: second :: rest) =
      (loneUnit (unitOf order first second)).2 ++ Encoding.utf16Text order rest := by
  rw [Encoding.utf16Text.eq_def]
  simp only [h, Bool.false_eq_true, if_false, loneUnit]
  split <;> rfl

/-- A high surrogate is decided by the unit after it: with a low one it is a pair, and otherwise it
is replaced and the unit is read as if nothing had been pending. -/
theorem utf16Text_of_high {order : ByteOrder} {first second : UInt8} (third fourth : UInt8)
    (rest : List UInt8) (h : Text.isHighSurrogate (unitOf order first second) = true) :
    Encoding.utf16Text order (first :: second :: third :: fourth :: rest) =
      if Text.isLowSurrogate (unitOf order third fourth) then
        Text.ofSurrogates (unitOf order first second) (unitOf order third fourth) ::
          Encoding.utf16Text order rest
      else Utf8.replacement :: Encoding.utf16Text order (third :: fourth :: rest) := by
  rw [Encoding.utf16Text.eq_def]
  simp only [h, if_true]

end Reader

variable [NationalDecoders]

/-! ## Readers -/

namespace Reader

@[simp] theorem text_nil (reader : Reader) : reader.text [] = reader.finish := rfl

@[simp] theorem text_cons (reader : Reader) (byte : UInt8) (rest : List UInt8) :
    reader.text (byte :: rest) = (reader.step byte).2 ++ (reader.step byte).1.text rest := by
  simp [text, run]

/-- Reading can stop and go on anywhere. -/
theorem text_append (reader : Reader) (first second : List UInt8) :
    reader.text (first ++ second) = (reader.run first).2 ++ (reader.run first).1.text second := by
  induction first generalizing reader with
  | nil => rfl
  | cons byte rest ih =>
      rw [List.cons_append, text_cons, ih]
      simp [run]

theorem text_codePage (page : CodePage) (bytes : List UInt8) :
    (codePage page).text bytes = bytes.map page.decodeByte := by
  induction bytes with
  | nil => rfl
  | cons byte rest ih => simp [step, ih]

theorem text_userDefined (bytes : List UInt8) :
    userDefined.text bytes = bytes.map userDefinedChar := by
  induction bytes with
  | nil => rfl
  | cons byte rest ih => simp [step, ih]

/-- Once the replacement character of a refused encoding is out, nothing follows. -/
theorem text_refused_reported (bytes : List UInt8) : (refused true).text bytes = [] := by
  induction bytes with
  | nil => rfl
  | cons byte rest ih => simp [step, ih]

theorem text_refused (bytes : List UInt8) :
    (refused false).text bytes = if bytes = [] then [] else [Utf8.replacement] := by
  cases bytes with
  | nil => rfl
  | cons byte rest => simp [step, text_refused_reported]

theorem text_utf8 (state : Utf8.State) (bytes : List UInt8) :
    (utf8 state).text bytes = (Utf8.readFrom state bytes).map (·.getD Utf8.replacement) := by
  induction bytes generalizing state with
  | nil => rfl
  | cons byte rest ih => simp [step, Utf8.readFrom, ih]

/-- The induction goes unit by unit and needs both states between units: without a pending
surrogate, and with one, which stands for the two bytes it came from. -/
theorem text_utf16_both (order : ByteOrder) :
    ∀ bytes : List UInt8,
      (utf16 order none none).text bytes = Encoding.utf16Text order bytes ∧
      ∀ first second : UInt8, Text.isHighSurrogate (unitOf order first second) = true →
        (utf16 order none (some (unitOf order first second))).text bytes =
          Encoding.utf16Text order (first :: second :: bytes)
  | [] => by
      refine ⟨by simp [finish, Encoding.utf16Text], fun first second hhigh => ?_⟩
      simp [finish, Encoding.utf16Text, hhigh]
  | [byte] => by
      refine ⟨by simp [step, finish, Encoding.utf16Text], fun first second hhigh => ?_⟩
      simp [step, finish, Encoding.utf16Text, hhigh]
  | third :: fourth :: rest => by
      obtain ⟨hplain, hpending⟩ := text_utf16_both order rest
      -- a unit that is read with nothing pending, high surrogates included
      have hlone : (loneUnit (unitOf order third fourth)).2 ++
          (utf16 order none (loneUnit (unitOf order third fourth)).1).text rest =
            Encoding.utf16Text order (third :: fourth :: rest) := by
        cases hhigh : Text.isHighSurrogate (unitOf order third fourth) with
        | true => simpa [loneUnit, hhigh] using hpending third fourth hhigh
        | false =>
            have hnone : (loneUnit (unitOf order third fourth)).1 = none := by
              simp only [loneUnit, hhigh, Bool.false_eq_true, if_false]
              split <;> rfl
            rw [hnone, hplain, utf16Text_of_not_high rest hhigh]
      refine ⟨by simpa [step, unitStep] using hlone, fun first second hhigh => ?_⟩
      rw [utf16Text_of_high third fourth rest hhigh]
      simp only [text_cons, step, unitStep, List.nil_append]
      split
      · simp [hplain]
      · simp [hlone]

theorem text_utf16 (order : ByteOrder) (bytes : List UInt8) :
    (utf16 order none none).text bytes = Encoding.utf16Text order bytes :=
  (text_utf16_both order bytes).1

/-! ## Encodings -/

/-- In every encoding the first state reads the whole text. -/
theorem text_ofEncoding (encoding : Encoding) (bytes : List UInt8) :
    (ofEncoding encoding).text bytes = encoding.textOf bytes := by
  cases encoding with
  | codePage page => exact text_codePage page bytes
  | utf16 order => exact text_utf16 order bytes
  | userDefined => exact text_userDefined bytes
  | refused => exact text_refused bytes
  | switched | national => rfl

end Reader

/-! ## Byte order marks -/

namespace Decoder

/-- The text of the bytes that are left, up to the end of the input. -/
def text (decoder : Decoder) : List UInt8 → List Char
  | [] => decoder.finish
  | byte :: rest => (decoder.step byte).2 ++ (decoder.step byte).1.text rest

@[simp] theorem text_reading (reader : Reader) (bytes : List UInt8) :
    (reading reader).text bytes = reader.text bytes := by
  induction bytes generalizing reader with
  | nil => rfl
  | cons byte rest ih => simp [text, step, ih]

/-- A complete mark selects what follows it is read as. -/
theorem decode_of_complete {encoding : Encoding} {withheld : MarkStart} {byte : UInt8}
    {reader : Reader} (h : withheld.next byte = .complete reader) (rest : List UInt8) :
    encoding.decode (withheld.bytes ++ byte :: rest) = reader.text rest := by
  unfold MarkStart.next at h
  split at h <;> simp only [MarkProgress.complete.injEq, reduceCtorEq] at h <;> subst h
  · rw [Reader.text_utf8]
    rfl
  · rw [Reader.text_utf16]
    rfl
  · rw [Reader.text_utf16]
    rfl

/-- Bytes that are no mark are part of the text. -/
theorem decode_of_noMark {encoding : Encoding} {withheld : MarkStart} {byte : UInt8}
    (h : withheld.next byte = .noMark) (rest : List UInt8) :
    encoding.decode (withheld.bytes ++ byte :: rest) =
      encoding.textOf (withheld.bytes ++ byte :: rest) := by
  unfold Encoding.decode
  split
  all_goals cases withheld <;> simp_all [MarkStart.bytes, MarkStart.next]

theorem bytes_of_longer {withheld start : MarkStart} {byte : UInt8}
    (h : withheld.next byte = .longer start) : start.bytes = withheld.bytes ++ [byte] := by
  unfold MarkStart.next at h
  split at h <;> simp only [MarkProgress.longer.injEq, reduceCtorEq] at h <;> subst h <;> rfl

/-- Bytes that may still become a mark are withheld and not lost. -/
theorem text_sniffing (encoding : Encoding) (withheld : MarkStart) (bytes : List UInt8) :
    (sniffing encoding withheld).text bytes = encoding.decode (withheld.bytes ++ bytes) := by
  induction bytes generalizing withheld with
  | nil =>
      have hwhole : encoding.decode (withheld.bytes ++ []) = encoding.textOf withheld.bytes := by
        cases withheld <;> rfl
      rw [hwhole, ← Reader.text_ofEncoding]
      rfl
  | cons byte rest ih =>
      cases h : withheld.next byte with
      | longer start =>
          rw [text]
          simp only [step, h, List.nil_append]
          rw [ih, bytes_of_longer h, List.append_assoc]
          rfl
      | complete reader =>
          rw [text, decode_of_complete h]
          simp [step, h]
      -- the withheld bytes are read after all, and then the byte that showed that they are no mark
      | noMark =>
          have hcut : withheld.bytes ++ byte :: rest = withheld.bytes ++ [byte] ++ rest := by simp
          rw [text, decode_of_noMark h, ← Reader.text_ofEncoding, hcut, Reader.text_append]
          simp [step, h]

/-- **Decoding byte by byte gives the text of the whole input**, byte order marks and the end of
the input included. -/
theorem text_ofEncoding (encoding : Encoding) (bytes : List UInt8) :
    (ofEncoding encoding).text bytes = encoding.decode bytes :=
  text_sniffing encoding .nothing bytes

end Decoder

theorem Encoding.decode_nil (encoding : Encoding) : encoding.decode [] = [] := by
  cases encoding with
  | national set => exact NationalDecoders.finish_initial set
  | utf16 order => simp [decode, textOf, utf16Text]
  | _ => rfl

end BankStatement
