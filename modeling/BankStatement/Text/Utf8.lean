/-!
# UTF-8

Writing text as bytes, and reading bytes as text one byte at a time.  Bytes that are not UTF-8 are
reported once for each longest stretch that still could have begun a character; a reader for display
puts the replacement character there, and a strict reader refuses the whole.
-/

namespace BankStatement.Utf8

/-! ## Writing -/

/-- The bytes of a character. -/
def encodeChar (c : Char) : List UInt8 :=
  let n := c.toNat
  if n < 0x80 then [UInt8.ofNat n]
  else if n < 0x800 then
    [UInt8.ofNat (0xc0 + n / 0x40), UInt8.ofNat (0x80 + n % 0x40)]
  else if n < 0x10000 then
    [UInt8.ofNat (0xe0 + n / 0x1000), UInt8.ofNat (0x80 + n / 0x40 % 0x40),
      UInt8.ofNat (0x80 + n % 0x40)]
  else
    [UInt8.ofNat (0xf0 + n / 0x40000), UInt8.ofNat (0x80 + n / 0x1000 % 0x40),
      UInt8.ofNat (0x80 + n / 0x40 % 0x40), UInt8.ofNat (0x80 + n % 0x40)]

/-- The bytes of a text. -/
def encode (text : List Char) : List UInt8 :=
  text.flatMap encodeChar

@[simp] theorem encode_nil : encode [] = [] := rfl

theorem encode_cons (c : Char) (text : List Char) :
    encode (c :: text) = encodeChar c ++ encode text := by
  simp [encode]

@[simp] theorem encode_append (first second : List Char) :
    encode (first ++ second) = encode first ++ encode second := by
  simp [encode]

theorem length_encodeChar_le (c : Char) : (encodeChar c).length ≤ 4 := by
  simp only [encodeChar]
  repeat' split
  all_goals simp

theorem length_encode_le (text : List Char) : (encode text).length ≤ 4 * text.length := by
  induction text with
  | nil => simp [encode]
  | cons c rest ih =>
      have hfirst := length_encodeChar_le c
      simp only [encode, List.flatMap_cons, List.length_append, List.length_cons] at ih ⊢
      omega

/-- How many bytes a text has. -/
def size (text : List Char) : Nat :=
  (encode text).length

/-! ## Reading -/

/-- What stands in for bytes that are no text. -/
def replacement : Char := '\uFFFD'

/-- Between characters, or inside one: the bits so far, how many bytes are missing, and the bounds
of the next byte. -/
inductive State where
  | between
  | inside (value missing lower upper : Nat)
deriving DecidableEq, Repr

/-- The state after a byte that starts a character, with the characters it completes; `none` marks
bytes that are no text. -/
def start (byte : UInt8) : State × List (Option Char) :=
  let b := byte.toNat
  if b < 0x80 then (.between, [some (Char.ofNat b)])
  else if b < 0xc2 then (.between, [none])
  else if b < 0xe0 then (.inside (b - 0xc0) 1 0x80 0xbf, [])
  else if b < 0xf0 then
    (.inside (b - 0xe0) 2 (if b = 0xe0 then 0xa0 else 0x80) (if b = 0xed then 0x9f else 0xbf), [])
  else if b < 0xf5 then
    (.inside (b - 0xf0) 3 (if b = 0xf0 then 0x90 else 0x80) (if b = 0xf4 then 0x8f else 0xbf), [])
  else (.between, [none])

/-- The state after one more byte. -/
def step (state : State) (byte : UInt8) : State × List (Option Char) :=
  match state with
  | .between => start byte
  | .inside value missing lower upper =>
      let b := byte.toNat
      if lower ≤ b ∧ b ≤ upper then
        let value := value * 0x40 + (b - 0x80)
        if missing ≤ 1 then (.between, [some (Char.ofNat value)])
        else (.inside value (missing - 1) 0x80 0xbf, [])
      else
        let (next, completed) := start byte
        (next, none :: completed)

/-- What the end of the bytes leaves unfinished. -/
def finish : State → List (Option Char)
  | .between => []
  | .inside .. => [none]

theorem length_start_le (byte : UInt8) : (start byte).2.length ≤ 1 := by
  simp only [start]
  repeat' split
  all_goals simp

theorem length_step_le (state : State) (byte : UInt8) : (step state byte).2.length ≤ 2 := by
  have := length_start_le byte
  cases state with
  | between => simp only [step]; omega
  | inside value missing lower upper =>
      simp only [step]
      repeat' split
      all_goals simp only [List.length_cons, List.length_nil]
      all_goals omega

theorem length_finish_le (state : State) : (finish state).length ≤ 1 := by
  cases state <;> simp [finish]

/-- The characters of bytes, from a state on. -/
def readFrom (state : State) : List UInt8 → List (Option Char)
  | [] => finish state
  | byte :: rest =>
      let (next, completed) := step state byte
      completed ++ readFrom next rest

/-- The text of bytes, with the replacement character for what is none. -/
def decodeLossy (bytes : List UInt8) : List Char :=
  (readFrom .between bytes).map fun c => c.getD replacement

/-- The text of bytes that are UTF-8 throughout. -/
def decode? (bytes : List UInt8) : Option (List Char) :=
  (readFrom .between bytes).mapM id

end BankStatement.Utf8
