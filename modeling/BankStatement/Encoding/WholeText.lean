import BankStatement.Encoding.Decoder

/-!
# Decoding in one go

The text of a whole input, defined without any state: a byte order mark at the start selects the
encoding and is dropped, and what follows is read as a whole.  Only the switched sets, of which the
reader remembers more than a few bytes, and the national sets, of which nothing but a reader is
known, are left to their readers.
-/

namespace BankStatement.Encoding

/-- The text of 16-bit units.  A surrogate without its partner, and an incomplete unit or pair at
the end, are one replacement character each. -/
def utf16Text (order : ByteOrder) : List UInt8 → List Char
  | [] => []
  | [_] => [Utf8.replacement]
  | first :: second :: rest =>
      let unit := Reader.unitOf order first second
      if Text.isHighSurrogate unit then
        match rest with
        | third :: fourth :: after =>
            let next := Reader.unitOf order third fourth
            if Text.isLowSurrogate next then Text.ofSurrogates unit next :: utf16Text order after
            else Utf8.replacement :: utf16Text order (third :: fourth :: after)
        | _ => [Utf8.replacement]
      else if Text.isLowSurrogate unit then Utf8.replacement :: utf16Text order rest
      else Char.ofNat unit :: utf16Text order rest
termination_by bytes => bytes.length
decreasing_by all_goals simp only [List.length_cons]; omega

variable [NationalDecoders]

/-- The text of bytes in an encoding, marks aside. -/
def textOf : Encoding → List UInt8 → List Char
  | codePage page, bytes => bytes.map page.decodeByte
  | utf16 order, bytes => utf16Text order bytes
  | userDefined, bytes => bytes.map Reader.userDefinedChar
  | refused, bytes => if bytes = [] then [] else [Utf8.replacement]
  | switched, bytes => (Reader.switched .initial).text bytes
  | national set, bytes => (Reader.national set (NationalDecoders.initial set)).text bytes

/-- The text of a whole input in an encoding, unless a byte order mark says otherwise. -/
def decode (encoding : Encoding) (bytes : List UInt8) : List Char :=
  match bytes with
  | 0xef :: 0xbb :: 0xbf :: rest => Utf8.decodeLossy rest
  | 0xfe :: 0xff :: rest => utf16Text .highFirst rest
  | 0xff :: 0xfe :: rest => utf16Text .lowFirst rest
  | _ => encoding.textOf bytes

end BankStatement.Encoding
