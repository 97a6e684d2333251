import BankStatement.Encoding.National

/-!
# Switched sets

ISO-2022-JP is written in bytes of seven bits, and escape sequences of three bytes switch between
four sets of characters.  A reader of it keeps the set that was switched to last and the part of a
sequence that it is in.  Two switches with nothing between them, and bytes that mean nothing where
they stand, read as replacement characters.  The characters of the two-byte set come from the table
that the decoders of national sets have.
-/

namespace BankStatement

/-- The sets of characters between which a text switches. -/
inductive SwitchedSet where
  | ascii
  | roman
  | katakana
  | twoByte
deriving DecidableEq, Repr

/-- The part of a sequence that a reader is in: none, after the first byte of two, after the byte
that begins an escape sequence, or after the second byte of one. -/
inductive SwitchPhase where
  | between
  | second (first : UInt8)
  | escape
  | escapeWith (byte : UInt8)
deriving DecidableEq, Repr

/-- A reader of switched sets.  It is idle when nothing has been read since the last switch. -/
structure SwitchedReader where
  set : SwitchedSet
  phase : SwitchPhase
  idle : Bool
deriving DecidableEq, Repr

namespace SwitchedReader

/-- The reader at the start of a text. -/
def initial : SwitchedReader := ⟨.ascii, .between, false⟩

/-- The byte that begins an escape sequence. -/
def escapeByte : UInt8 := 0x1b

/-- Whether a byte may be the first or the second one of a character in the two-byte set. -/
def isPairByte (byte : UInt8) : Bool :=
  0x21 ≤ byte.toNat && byte.toNat ≤ 0x7e

/-- The character of a byte in ASCII, from which the bytes are missing that shift in other
standards. -/
def asciiChar (byte : UInt8) : Char :=
  if byte.toNat < 0x80 ∧ byte ≠ 0x0e ∧ byte ≠ 0x0f then Char.ofNat byte.toNat else Utf8.replacement

/-- The character of a single byte in a set.  In the two-byte set no byte has one alone. -/
def charOf (set : SwitchedSet) (byte : UInt8) : Char :=
  match set with
  | .ascii => asciiChar byte
  | .roman => if byte = 0x5c then '¥' else if byte = 0x7e then '‾' else asciiChar byte
  | .katakana =>
      if 0x21 ≤ byte.toNat ∧ byte.toNat ≤ 0x5f then Char.ofNat (0xff40 + byte.toNat)
      else Utf8.replacement
  | .twoByte => Utf8.replacement

/-- The character of two bytes in the two-byte set. -/
def pairChar [NationalDecoders] (first second : UInt8) : Char :=
  if isPairByte second then (NationalDecoders.pair? first second).getD Utf8.replacement
  else Utf8.replacement

/-- The set that an escape sequence of two more bytes switches to. -/
def setOf? (first second : UInt8) : Option SwitchedSet :=
  match first, second with
  | 0x28, 0x42 => some .ascii
  | 0x28, 0x4a => some .roman
  | 0x28, 0x49 => some .katakana
  | 0x24, 0x40 => some .twoByte
  | 0x24, 0x42 => some .twoByte
  | _, _ => none

/-- The reader after a byte that stands between characters. -/
def readFirst (r : SwitchedReader) (byte : UInt8) : SwitchedReader × List Char :=
  if byte = escapeByte then ({ r with phase := .escape }, [])
  else if r.set = .twoByte ∧ isPairByte byte then (⟨r.set, .second byte, false⟩, [])
  else (⟨r.set, .between, false⟩, [charOf r.set byte])

section

variable [NationalDecoders]

/-- The reader after a byte that is not part of an escape sequence. -/
def readPlain (r : SwitchedReader) (byte : UInt8) : SwitchedReader × List Char :=
  match r.phase with
  | .second first =>
      if byte = escapeByte then ({ r with phase := .escape }, [Utf8.replacement])
      else ({ r with phase := .between }, [pairChar first byte])
  | _ => r.readFirst byte

/-- The reader after one more byte, with the characters that the byte completes.  The bytes of an
escape sequence that switches to nothing are read as if they stood between characters, but for the
first. -/
def step (r : SwitchedReader) (byte : UInt8) : SwitchedReader × List Char :=
  match r.phase with
  | .between | .second _ => r.readPlain byte
  | .escape =>
      if byte = 0x24 ∨ byte = 0x28 then ({ r with phase := .escapeWith byte }, [])
      else
        let (next, text) := readFirst ⟨r.set, .between, false⟩ byte
        (next, Utf8.replacement :: text)
  | .escapeWith first =>
      match setOf? first byte with
      | some set => (⟨set, .between, true⟩, if r.idle then [Utf8.replacement] else [])
      | none =>
          let (after, text) := readFirst ⟨r.set, .between, false⟩ first
          let (last, more) := after.readPlain byte
          (last, Utf8.replacement :: text ++ more)

end

/-- What the end of the input leaves unfinished.  Of the bytes of an escape sequence, the second can
be the first one of a pair. -/
def finish (r : SwitchedReader) : List Char :=
  match r.phase with
  | .between => []
  | .second _ | .escape => [Utf8.replacement]
  | .escapeWith first =>
      let (after, text) := readFirst ⟨r.set, .between, false⟩ first
      Utf8.replacement :: text ++ (if after.phase = .second first then [Utf8.replacement] else [])

/-! ## How much a byte completes -/

theorem length_readFirst_le (r : SwitchedReader) (byte : UInt8) :
    (r.readFirst byte).2.length ≤ 1 := by
  unfold readFirst
  repeat' split
  all_goals simp

section

variable [NationalDecoders]

theorem length_readPlain_le (r : SwitchedReader) (byte : UInt8) :
    (r.readPlain byte).2.length ≤ 1 := by
  unfold readPlain
  split
  · split <;> simp
  · exact length_readFirst_le r byte

theorem length_step_le (r : SwitchedReader) (byte : UInt8) : (r.step byte).2.length ≤ 3 := by
  unfold step
  split
  · exact Nat.le_trans (length_readPlain_le r byte) (by omega)
  · exact Nat.le_trans (length_readPlain_le r byte) (by omega)
  · split
    · simp
    · have hfirst := length_readFirst_le ⟨r.set, .between, false⟩ byte
      simp only [List.length_cons]
      omega
  · rename_i first _
    split
    · split <;> simp
    · have hfirst := length_readFirst_le ⟨r.set, .between, false⟩ first
      have hsecond := length_readPlain_le (readFirst ⟨r.set, .between, false⟩ first).1 byte
      simp only [List.length_append, List.length_cons]
      omega

end

theorem length_finish_le (r : SwitchedReader) : r.finish.length ≤ 3 := by
  unfold finish
  split
  · simp
  · simp
  · simp
  · rename_i first _
    have hfirst := length_readFirst_le ⟨r.set, .between, false⟩ first
    simp only [List.length_append, List.length_cons]
    split <;> simp <;> omega

end SwitchedReader

end BankStatement
