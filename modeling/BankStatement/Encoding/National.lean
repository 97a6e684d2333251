import BankStatement.Encoding.Label
import BankStatement.Text.Utf8

/-!
# Decoders of national sets

The characters of a national set stand in a table of thousands of entries, and which bytes go
together depends on it.  The tables are not part of the library, so what reads these sets is a
parameter of everything that does (`NationalDecoders`): nothing is known of a decoder but how its
text may depend on the bytes that it has held back.
-/

namespace BankStatement

/-- Decoders of the national sets, which take the bytes of an input one at a time, and the table of
the two-byte set that switched texts have.

The sequences of these sets have at most four bytes, and no text, replacement characters included,
has more characters than bytes.  So a decoder holds back three bytes at most, and neither a byte nor
the end of the input completes more than four characters. -/
class NationalDecoders where
  /-- What the decoder of a set remembers between bytes. -/
  State : NationalSet → Type
  /-- Before the first byte. -/
  initial (set : NationalSet) : State set
  /-- The state after one more byte, with the characters that the byte completes. -/
  step (set : NationalSet) : State set → UInt8 → State set × List Char
  /-- What the end of the input leaves unfinished. -/
  finish (set : NationalSet) : State set → List Char
  /-- The character of two bytes in the two-byte set, if there is one. -/
  pair? : UInt8 → UInt8 → Option Char
  length_step_le (set : NationalSet) (state : State set) (byte : UInt8) :
    (step set state byte).2.length ≤ 4
  length_finish_le (set : NationalSet) (state : State set) : (finish set state).length ≤ 4
  finish_initial (set : NationalSet) : finish set (initial set) = []

/-- Decoders without any table.  They read the bytes of ASCII as long as these stand alone, and
replace every other byte. -/
abbrev NationalDecoders.asciiOnly : NationalDecoders where
  State _ := Unit
  initial _ := ()
  step _ _ byte :=
    ((), [if byte.toNat < 0x80 then Char.ofNat byte.toNat else Utf8.replacement])
  finish _ _ := []
  pair? _ _ := none
  length_step_le _ _ _ := by simp
  length_finish_le _ _ := by simp
  finish_initial _ := rfl

end BankStatement
