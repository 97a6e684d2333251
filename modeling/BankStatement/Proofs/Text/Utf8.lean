import BankStatement.Text.Utf8

/-!
# Written text reads back

The reader of `Text/Utf8.lean` goes byte by byte and knows nothing of characters, so that what a
character writes has to be followed through its states: a first byte that announces how many more
there are, and bytes inside the bounds that the first one sets.  The bounds after the first bytes
`0xe0`, `0xed`, `0xf0` and `0xf4` are where overlong forms, surrogates and numbers past the last
character are refused, and none of these is the number of a character.

A text that is cut after some of its bytes is a text again unless the cut is inside a character,
which does not happen in ASCII (`front?_of_ascii`).

Main statement: `decode?_encode`.
-/

namespace BankStatement.Utf8

/-! ## Bytes inside a character -/

theorem toNat_ofNat_of_lt {n : Nat} (h : n < 0x100) : (UInt8.ofNat n).toNat = n := by
  simpa using Nat.mod_eq_of_lt h

/-- A byte that announces more. -/
theorem readFrom_start {byte : UInt8} {state : State} (h : start byte = (state, []))
    (rest : List UInt8) : readFrom .between (byte :: rest) = readFrom state rest := by
  simp [readFrom, step, h]

/-- The last byte of a character. -/
theorem readFrom_inside_last {value lower upper b : Nat} (hlower : lower ≤ b) (hupper : b ≤ upper)
    (hbyte : b < 0x100) (rest : List UInt8) :
    readFrom (.inside value 1 lower upper) (UInt8.ofNat b :: rest) =
      some (Char.ofNat (value * 0x40 + (b - 0x80))) :: readFrom .between rest := by
  simp [readFrom, step, Nat.mod_eq_of_lt hbyte, hlower, hupper]

/-- A byte of a character that is not its first and not its last. -/
theorem readFrom_inside_more {value missing lower upper b : Nat} (hlower : lower ≤ b)
    (hupper : b ≤ upper) (hbyte : b < 0x100) (hmissing : 1 < missing) (rest : List UInt8) :
    readFrom (.inside value missing lower upper) (UInt8.ofNat b :: rest) =
      readFrom (.inside (value * 0x40 + (b - 0x80)) (missing - 1) 0x80 0xbf) rest := by
  simp [readFrom, step, Nat.mod_eq_of_lt hbyte, hlower, hupper, Nat.not_le.mpr hmissing]

/-! ## One character -/

theorem encodeChar_of_ascii {c : Char} (h : c.toNat < 0x80) :
    encodeChar c = [UInt8.ofNat c.toNat] := by
  simp [encodeChar, h]

theorem encodeChar_ne_nil (c : Char) : encodeChar c ≠ [] := by
  simp only [encodeChar]
  repeat' split
  all_goals simp

theorem char_valid (c : Char) :
    c.toNat < 0xd800 ∨ 0xe000 ≤ c.toNat ∧ c.toNat < 0x110000 := by
  have h : c.toNat < 0xd800 ∨ 0xdfff < c.toNat ∧ c.toNat < 0x110000 := c.valid
  omega

theorem readFrom_one {n : Nat} (h : n < 0x80) (rest : List UInt8) :
    readFrom .between (UInt8.ofNat n :: rest) = some (Char.ofNat n) :: readFrom .between rest := by
  simp [readFrom, step, start, Nat.mod_eq_of_lt (show n < 256 by omega), h]

theorem readFrom_two {n : Nat} (hlow : 0x80 ≤ n) (hhigh : n < 0x800) (rest : List UInt8) :
    readFrom .between
        (UInt8.ofNat (0xc0 + n / 0x40) :: UInt8.ofNat (0x80 + n % 0x40) :: rest) =
      some (Char.ofNat n) :: readFrom .between rest := by
  have hfirst : start (UInt8.ofNat (0xc0 + n / 0x40)) =
      (.inside (n / 0x40) 1 0x80 0xbf, []) := by
    simp only [start, toNat_ofNat_of_lt (show 0xc0 + n / 0x40 < 0x100 by omega)]
    rw [if_neg (by omega), if_neg (by omega), if_pos (by omega), Nat.add_sub_cancel_left]
  rw [readFrom_start hfirst,
    readFrom_inside_last (by omega) (by omega) (by omega)]
  have hvalue : n / 0x40 * 0x40 + (0x80 + n % 0x40 - 0x80) = n := by omega
  rw [hvalue]

theorem readFrom_three {n : Nat} (hlow : 0x800 ≤ n) (hhigh : n < 0x10000)
    (hvalid : n < 0xd800 ∨ 0xe000 ≤ n) (rest : List UInt8) :
    readFrom .between
        (UInt8.ofNat (0xe0 + n / 0x1000) :: UInt8.ofNat (0x80 + n / 0x40 % 0x40) ::
          UInt8.ofNat (0x80 + n % 0x40) :: rest) =
      some (Char.ofNat n) :: readFrom .between rest := by
  have hfirst : start (UInt8.ofNat (0xe0 + n / 0x1000)) =
      (.inside (n / 0x1000) 2 (if 0xe0 + n / 0x1000 = 0xe0 then 0xa0 else 0x80)
        (if 0xe0 + n / 0x1000 = 0xed then 0x9f else 0xbf), []) := by
    simp only [start, toNat_ofNat_of_lt (show 0xe0 + n / 0x1000 < 0x100 by omega)]
    rw [if_neg (by omega), if_neg (by omega), if_neg (by omega), if_pos (by omega),
      Nat.add_sub_cancel_left]
  rw [readFrom_start hfirst,
    readFrom_inside_more (by split <;> omega) (by split <;> omega) (by omega) (by omega),
    readFrom_inside_last (by omega) (by omega) (by omega)]
  have hvalue : (n / 0x1000 * 0x40 + (0x80 + n / 0x40 % 0x40 - 0x80)) * 0x40 +
      (0x80 + n % 0x40 - 0x80) = n := by omega
  rw [hvalue]

theorem readFrom_four {n : Nat} (hlow : 0x10000 ≤ n) (hhigh : n < 0x110000) (rest : List UInt8) :
    readFrom .between
        (UInt8.ofNat (0xf0 + n / 0x40000) :: UInt8.ofNat (0x80 + n / 0x1000 % 0x40) ::
          UInt8.ofNat (0x80 + n / 0x40 % 0x40) :: UInt8.ofNat (0x80 + n % 0x40) :: rest) =
      some (Char.ofNat n) :: readFrom .between rest := by
  have hfirst : start (UInt8.ofNat (0xf0 + n / 0x40000)) =
      (.inside (n / 0x40000) 3 (if 0xf0 + n / 0x40000 = 0xf0 then 0x90 else 0x80)
        (if 0xf0 + n / 0x40000 = 0xf4 then 0x8f else 0xbf), []) := by
    simp only [start, toNat_ofNat_of_lt (show 0xf0 + n / 0x40000 < 0x100 by omega)]
    rw [if_neg (by omega), if_neg (by omega), if_neg (by omega), if_neg (by omega),
      if_pos (by omega), Nat.add_sub_cancel_left]
  rw [readFrom_start hfirst,
    readFrom_inside_more (by split <;> omega) (by split <;> omega) (by omega) (by omega),
    readFrom_inside_more (by omega) (by omega) (by omega) (by omega),
    readFrom_inside_last (by omega) (by omega) (by omega)]
  have hvalue : ((n / 0x40000 * 0x40 + (0x80 + n / 0x1000 % 0x40 - 0x80)) * 0x40 +
      (0x80 + n / 0x40 % 0x40 - 0x80)) * 0x40 + (0x80 + n % 0x40 - 0x80) = n := by omega
  rw [hvalue]

/-- What a character writes completes that character and nothing else. -/
theorem readFrom_encodeChar (c : Char) (rest : List UInt8) :
    readFrom .between (encodeChar c ++ rest) = some c :: readFrom .between rest := by
  have hvalid := char_valid c
  suffices h : readFrom .between (encodeChar c ++ rest) =
      some (Char.ofNat c.toNat) :: readFrom .between rest by
    rwa [Char.ofNat_toNat] at h
  -- one case for each number of bytes
  simp only [encodeChar]
  split
  · exact readFrom_one ‹_› rest
  · split
    · exact readFrom_two (by omega) ‹_› rest
    · split
      · exact readFrom_three (by omega) ‹_› (by omega) rest
      · exact readFrom_four (by omega) (by omega) rest

/-! ## Texts -/

theorem readFrom_encode (text : List Char) : readFrom .between (encode text) = text.map some := by
  induction text with
  | nil => rfl
  | cons c rest ih =>
      rw [encode, List.flatMap_cons, readFrom_encodeChar]
      exact congrArg (some c :: ·) ih

/-- **What a text writes is UTF-8, and reads as that text.** -/
theorem decode?_encode (text : List Char) : decode? (encode text) = some text := by
  rw [decode?, readFrom_encode]
  induction text with
  | nil => rfl
  | cons c rest ih => simp [ih]

theorem size_cons_pos (c : Char) (rest : List Char) : 0 < size (c :: rest) := by
  have hchar : 0 < (encodeChar c).length := List.length_pos_iff.mpr (encodeChar_ne_nil c)
  rw [size, encode_cons, List.length_append]
  omega

/-! ## Texts cut at a byte -/

/-- The first bytes of a text, as a text.  There is none when the text has fewer bytes, or when the
cut is inside a character. -/
def front? (count : Nat) (text : List Char) : Option (List Char) :=
  if count ≤ size text then decode? ((encode text).take count) else none

theorem size_of_ascii {text : List Char} (h : ∀ c ∈ text, c.toNat < 0x80) :
    size text = text.length := by
  induction text with
  | nil => rfl
  | cons c rest ih =>
      obtain ⟨hc, hrest⟩ := List.forall_mem_cons.mp h
      calc size (c :: rest)
          = (encodeChar c ++ encode rest).length := congrArg List.length (encode_cons c rest)
        _ = (encode rest).length + 1 := by rw [encodeChar_of_ascii hc]; rfl
        _ = rest.length + 1 := congrArg (· + 1) (ih hrest)

/-- Among ASCII characters there is one for each byte, so that a cut is between two of them. -/
theorem front?_of_ascii {count : Nat} {text : List Char} (h : ∀ c ∈ text, c.toNat < 0x80)
    (hcount : count ≤ text.length) : front? count text = some (text.take count) := by
  have hlength : (encode (text.take count)).length = count := by
    calc (encode (text.take count)).length
        = (text.take count).length := size_of_ascii fun c hc => h c (List.mem_of_mem_take hc)
      _ = count := List.length_take_of_le hcount
  have hbytes : (encode text).take count = encode (text.take count) := by
    calc (encode text).take count
        = (encode (text.take count) ++ encode (text.drop count)).take count := by
          rw [← encode_append, List.take_append_drop]
      _ = encode (text.take count) := List.take_left' hlength
  have hsize : count ≤ size text := by
    rw [size_of_ascii h]
    exact hcount
  rw [front?, if_pos hsize, hbytes, decode?_encode]

end BankStatement.Utf8
