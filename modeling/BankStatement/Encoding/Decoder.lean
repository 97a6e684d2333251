import BankStatement.Encoding.Switched
import BankStatement.Text.Surrogate

/-!
# Incremental decoding

A decoder takes the bytes of an input one at a time and gives back the characters that each of them
completes.  It begins by looking for a byte order mark: bytes that may still become one are
withheld, a complete mark is dropped and selects its own encoding, and bytes that turn out to be no
mark are read in the encoding that was asked for.  After that a `Reader` keeps what its encoding has
to remember between bytes.
-/

namespace BankStatement

/-! ## Readers -/

namespace Reader

/-- The 16-bit unit of two bytes. -/
def unitOf (order : ByteOrder) (first second : UInt8) : Nat :=
  match order with
  | .lowFirst => first.toNat + 0x100 * second.toNat
  | .highFirst => 0x100 * first.toNat + second.toNat

/-- The pending high surrogate and the characters after a unit that does not end a pair. -/
def loneUnit (unit : Nat) : Option Nat × List Char :=
  if Text.isHighSurrogate unit then (some unit, [])
  else if Text.isLowSurrogate unit then (none, [Utf8.replacement])
  else (none, [Char.ofNat unit])

/-- The pending high surrogate and the characters after one more unit. -/
def unitStep (high : Option Nat) (unit : Nat) : Option Nat × List Char :=
  match high with
  | none => loneUnit unit
  | some h =>
      if Text.isLowSurrogate unit then (none, [Text.ofSurrogates h unit])
      else ((loneUnit unit).1, Utf8.replacement :: (loneUnit unit).2)

/-- The character of a byte in the encoding that moves the upper half to private use. -/
def userDefinedChar (byte : UInt8) : Char :=
  if byte.toNat < 0x80 then Char.ofNat byte.toNat else Char.ofNat (0xf700 + byte.toNat)

end Reader

section

variable [NationalDecoders]

/-- What reading in one encoding remembers between bytes.  A UTF-16 reader holds the first byte of a
unit and the high surrogate of a pair. -/
inductive Reader where
  | utf8 (state : Utf8.State)
  | utf16 (order : ByteOrder) (first : Option UInt8) (high : Option Nat)
  | codePage (page : CodePage)
  | userDefined
  | refused (reported : Bool)
  | switched (reader : SwitchedReader)
  | national (set : NationalSet) (state : NationalDecoders.State set)

namespace Reader

/-- The reader of an encoding before the first byte. -/
def ofEncoding : Encoding → Reader
  | .codePage page => codePage page
  | .utf16 order => utf16 order none none
  | .userDefined => userDefined
  | .refused => refused false
  | .switched => switched .initial
  | .national set => national set (NationalDecoders.initial set)

/-- The reader after one more byte, with the characters that the byte completes. -/
def step : Reader → UInt8 → Reader × List Char
  | utf8 state, byte =>
      (utf8 (Utf8.step state byte).1, (Utf8.step state byte).2.map (·.getD Utf8.replacement))
  | utf16 order none high, byte => (utf16 order (some byte) high, [])
  | utf16 order (some first) high, byte =>
      let (high, text) := unitStep high (unitOf order first byte)
      (utf16 order none high, text)
  | codePage page, byte => (codePage page, [page.decodeByte byte])
  | userDefined, byte => (userDefined, [userDefinedChar byte])
  | refused reported, _ => (refused true, if reported then [] else [Utf8.replacement])
  | switched reader, byte =>
      let (next, text) := reader.step byte
      (switched next, text)
  | national set state, byte =>
      let (next, text) := NationalDecoders.step set state byte
      (national set next, text)

/-- What the end of the input leaves unfinished. -/
def finish : Reader → List Char
  | utf8 state => (Utf8.finish state).map (·.getD Utf8.replacement)
  | utf16 _ none none => []
  | utf16 .. => [Utf8.replacement]
  | switched reader => reader.finish
  | national set state => NationalDecoders.finish set state
  | _ => []

/-- The reader after several bytes, with the characters they complete. -/
def run (reader : Reader) : List UInt8 → Reader × List Char
  | [] => (reader, [])
  | byte :: rest =>
      let (next, text) := reader.step byte
      let (last, more) := run next rest
      (last, text ++ more)

/-- The text of the bytes that are left, up to the end of the input. -/
def text (reader : Reader) (bytes : List UInt8) : List Char :=
  (reader.run bytes).2 ++ (reader.run bytes).1.finish

end Reader

end

/-! ## Byte order marks -/

/-- The bytes that may still become a byte order mark. -/
inductive MarkStart where
  | nothing
  | ef
  | efBb
  | fe
  | ff
deriving DecidableEq, Repr

def MarkStart.bytes : MarkStart → List UInt8
  | nothing => []
  | ef => [0xef]
  | efBb => [0xef, 0xbb]
  | fe => [0xfe]
  | ff => [0xff]

section

variable [NationalDecoders]

/-- What one more byte makes of the beginning of a mark: a longer beginning, a complete mark, which
selects a reader, or no mark. -/
inductive MarkProgress where
  | longer (start : MarkStart)
  | complete (reader : Reader)
  | noMark

def MarkStart.next : MarkStart → UInt8 → MarkProgress
  | nothing, 0xef => .longer ef
  | nothing, 0xfe => .longer fe
  | nothing, 0xff => .longer ff
  | ef, 0xbb => .longer efBb
  | efBb, 0xbf => .complete (.utf8 .between)
  | fe, 0xff => .complete (.utf16 .highFirst none none)
  | ff, 0xfe => .complete (.utf16 .lowFirst none none)
  | _, _ => .noMark

/-- A decoder: looking for a mark, with the bytes withheld so far, or past it. -/
inductive Decoder where
  | sniffing (encoding : Encoding) (withheld : MarkStart)
  | reading (reader : Reader)

namespace Decoder

/-- The decoder of an encoding before the first byte. -/
def ofEncoding (encoding : Encoding) : Decoder :=
  sniffing encoding .nothing

/-- The decoder after one more byte, with the characters that the byte completes. -/
def step : Decoder → UInt8 → Decoder × List Char
  | sniffing encoding withheld, byte =>
      match withheld.next byte with
      | .longer start => (sniffing encoding start, [])
      | .complete reader => (reading reader, [])
      | .noMark =>
          let (reader, text) := (Reader.ofEncoding encoding).run (withheld.bytes ++ [byte])
          (reading reader, text)
  | reading reader, byte =>
      let (next, text) := reader.step byte
      (reading next, text)

/-- The characters that the end of the input completes.  Withheld bytes were no mark after all. -/
def finish : Decoder → List Char
  | sniffing encoding withheld =>
      let (reader, text) := (Reader.ofEncoding encoding).run withheld.bytes
      text ++ reader.finish
  | reading reader => reader.finish

end Decoder

/-! ## How much a byte completes -/

theorem Reader.length_step_le (reader : Reader) (byte : UInt8) :
    (reader.step byte).2.length ≤ 4 := by
  fun_cases Reader.step reader byte with
  | case1 state byte =>
      have hbytes := Utf8.length_step_le state byte
      simp only [List.length_map]
      omega
  | case2 => simp
  | case3 order first high byte high' text hunit =>
      have hlength := congrArg (·.2.length) hunit
      simp only [unitStep, loneUnit] at hlength
      simp only
      rw [← hlength]
      repeat' split
      all_goals simp
  | case4 => simp
  | case5 => simp
  | case6 => split <;> simp
  | case7 reader byte next text hstep =>
      have hlength := reader.length_step_le byte
      rw [hstep] at hlength
      exact Nat.le_trans hlength (by omega)
  | case8 set state byte next text hstep =>
      have hlength := NationalDecoders.length_step_le set state byte
      rwa [hstep] at hlength

theorem Reader.length_run_le (reader : Reader) (bytes : List UInt8) :
    (reader.run bytes).2.length ≤ 4 * bytes.length := by
  induction bytes generalizing reader with
  | nil => simp [run]
  | cons byte rest ih =>
      have hfirst := length_step_le reader byte
      have hlater := ih (reader.step byte).1
      simp only [run, List.length_append, List.length_cons]
      omega

theorem Reader.length_finish_le (reader : Reader) : reader.finish.length ≤ 4 := by
  fun_cases Reader.finish reader with
  | case1 state =>
      have hlength := Utf8.length_finish_le state
      simp only [List.length_map]
      omega
  | case2 => simp
  | case3 => simp
  | case4 reader => exact Nat.le_trans reader.length_finish_le (by omega)
  | case5 set state => exact NationalDecoders.length_finish_le set state
  | case6 => simp

/-- A byte completes at most twelve characters: those of the three bytes that may have been
withheld. -/
theorem Decoder.length_step_le (decoder : Decoder) (byte : UInt8) :
    (decoder.step byte).2.length ≤ 12 := by
  fun_cases Decoder.step decoder byte with
  | case1 => simp
  | case2 => simp
  | case3 encoding withheld byte _ reader text hrun =>
      have hlength := Reader.length_run_le (.ofEncoding encoding) (withheld.bytes ++ [byte])
      rw [hrun] at hlength
      refine Nat.le_trans hlength ?_
      cases withheld <;> simp [MarkStart.bytes]
  | case4 reader byte next text hstep =>
      have hlength := Reader.length_step_le reader byte
      rw [hstep] at hlength
      exact Nat.le_trans hlength (by omega)

theorem Decoder.length_finish_le (decoder : Decoder) : decoder.finish.length ≤ 12 := by
  fun_cases Decoder.finish decoder with
  | case1 encoding withheld reader text hrun =>
      have hlength := Reader.length_run_le (.ofEncoding encoding) withheld.bytes
      have hfinish := Reader.length_finish_le reader
      have hwithheld : withheld.bytes.length ≤ 2 := by cases withheld <;> simp [MarkStart.bytes]
      simp only [hrun, List.length_append] at *
      omega
  | case2 reader => exact Nat.le_trans (Reader.length_finish_le reader) (by omega)

end

end BankStatement
