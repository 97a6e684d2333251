import BankStatement.Proofs.Encoding.Transcoding

/-!
# Encodings of one byte for each character

Code pages and the encoding that moves the upper half to private use give every byte a character of
its own.  The lower half is ASCII in all of them, and the characters of the upper half are none of
ASCII (`charOf_lower`, `le_charOf_upper`): whatever looks for an ASCII byte finds it in the bytes
and in their UTF-8 text at the same places.

The source that a transcoder makes of such bytes delivers that text (`bytes_toSource`), and it does
not begin with the mark of UTF-8 unless the bytes began with a mark, because no byte reads as
`U+FEFF` (`not_utf8Mark_prefix_encode`).
-/

namespace BankStatement

/-! ## The transcoded source -/

/-- A transcoder that is read to its end hands out what is pending. -/
theorem Transcoder.bytes_toSource [NationalDecoders] {t : Transcoder} (h : t.Consistent)
    (hsource : t.source.NeverFails) {limit : Nat} (hlimit : 0 < limit) :
    (t.toSource limit).bytes = t.pending := by
  fun_induction toSource limit t with
  | case1 t message next hresult =>
      obtain ⟨piece, after, hread, _⟩ := exists_read_of_neverFails hsource limit
      rw [hread] at hresult
      cases hresult
  | case2 t next hresult =>
      obtain ⟨_, _, _, hempty⟩ := read_ok h hresult
      rw [hempty hlimit rfl]
      rfl
  | case3 t head tail next hresult ih =>
      obtain ⟨hnext, hpending, _, _⟩ := read_ok h hresult
      obtain ⟨piece, after, hread, hafter⟩ := exists_read_of_neverFails hsource limit
      have hsame : after = next := by
        rw [hread] at hresult
        exact (Prod.mk.inj hresult).2
      rw [Source.bytes, ih hnext (hsame ▸ hafter), hpending]

/-! ## Bytes of UTF-8 -/

namespace Utf8

/-- The number of the character of a number. -/
theorem toNat_charOfNat {n : Nat} (h : n.isValidChar) : (Char.ofNat n).toNat = n := by
  rw [Char.ofNat, dif_pos h]
  rfl

/-- The bytes of a character that is not ASCII are no ASCII bytes either. -/
theorem le_of_mem_encodeChar {c : Char} (h : 0x80 ≤ c.toNat) {byte : UInt8}
    (hbyte : byte ∈ encodeChar c) : 0x80 ≤ byte.toNat := by
  have hvalid : c.toNat < 0x110000 := by
    have hchar := char_valid c
    omega
  -- whether it leads or follows, such a byte is at least `0x80` and has eight bits
  have hupper : ∀ {n : Nat}, 0x80 ≤ n → n < 0x100 → 0x80 ≤ (UInt8.ofNat n).toNat := by
    intro n hlow hhigh
    rwa [toNat_ofNat_of_lt hhigh]
  simp only [encodeChar] at hbyte
  rw [if_neg (by omega)] at hbyte
  split at hbyte
  · simp only [List.mem_cons, List.not_mem_nil, or_false] at hbyte
    rcases hbyte with rfl | rfl <;> exact hupper (by omega) (by omega)
  · split at hbyte
    · simp only [List.mem_cons, List.not_mem_nil, or_false] at hbyte
      rcases hbyte with rfl | rfl | rfl <;> exact hupper (by omega) (by omega)
    · simp only [List.mem_cons, List.not_mem_nil, or_false] at hbyte
      rcases hbyte with rfl | rfl | rfl | rfl <;> exact hupper (by omega) (by omega)

/-- A text that begins with the three bytes of the mark begins with the character that they are. -/
theorem head?_of_mark_prefix_encode {text : List Char}
    (h : [0xef, 0xbb, 0xbf] <+: encode text) : text.head? = some '\uFEFF' := by
  obtain ⟨rest, hrest⟩ := h
  have hread := readFrom_encode text
  rw [← hrest] at hread
  have hmark : readFrom .between ([0xef, 0xbb, 0xbf] ++ rest) =
      some '\uFEFF' :: readFrom .between rest := readFrom_encodeChar '\uFEFF' rest
  rw [hmark] at hread
  cases text with
  | nil => cases hread
  | cons c more =>
      rw [List.map_cons, List.cons.injEq, Option.some.injEq] at hread
      rw [List.head?_cons, ← hread.1]

end Utf8

/-! ## Single-byte encodings -/

namespace Encoding

/-- Whether every byte has a character of its own. -/
def IsSingleByte : Encoding → Prop
  | codePage _ | userDefined => True
  | _ => False

/-- The character of a byte in a single-byte encoding. -/
def charOf : Encoding → UInt8 → Char
  | codePage page => page.decodeByte
  | _ => Reader.userDefinedChar

theorem textOf_eq_map [NationalDecoders] {encoding : Encoding} (h : encoding.IsSingleByte)
    (bytes : List UInt8) : encoding.textOf bytes = bytes.map encoding.charOf := by
  cases encoding with
  | codePage _ | userDefined => rfl
  | utf16 _ | refused | switched | national _ => exact h.elim

/-- The lower half of the bytes is ASCII. -/
theorem charOf_lower (encoding : Encoding) {byte : UInt8} (h : byte.toNat < 0x80) :
    encoding.charOf byte = Char.ofNat byte.toNat := by
  have huser : Reader.userDefinedChar byte = Char.ofNat byte.toNat := if_pos h
  cases encoding with
  | codePage page => exact if_pos h
  | utf16 _ | userDefined | refused | switched | national _ => exact huser

/-- What may stand in the upper half of a code page: a character past ASCII that is no mark. -/
def IsUpper (n : Nat) : Bool :=
  decide (0x80 ≤ n) && (decide (n < 0xd800) || decide (0xe000 ≤ n) && decide (n < 0x110000)) &&
    decide (n ≠ 0xfeff)

theorem isUpper_upperHalf (page : CodePage) : page.upperHalf.all IsUpper = true := by
  cases page <;> decide

theorem toNat_ofNat_of_isUpper {n : Nat} (h : IsUpper n = true) :
    (Char.ofNat n).toNat = n ∧ 0x80 ≤ n ∧ n ≠ 0xfeff := by
  simp only [IsUpper, Bool.and_eq_true, Bool.or_eq_true, decide_eq_true_eq] at h
  obtain ⟨⟨hlow, hrange⟩, hmark⟩ := h
  refine ⟨?_, hlow, hmark⟩
  have hvalid : n.isValidChar := by
    rcases hrange with hrange | ⟨hfrom, hto⟩
    · exact .inl hrange
    · exact .inr ⟨by omega, hto⟩
  exact Utf8.toNat_charOfNat hvalid

/-- The number of a character in the upper half. -/
theorem exists_charOf_upper (encoding : Encoding) {byte : UInt8} (h : 0x80 ≤ byte.toNat) :
    ∃ n, encoding.charOf byte = Char.ofNat n ∧ IsUpper n = true := by
  have huser : ∃ n, Reader.userDefinedChar byte = Char.ofNat n ∧ IsUpper n = true := by
    refine ⟨0xf700 + byte.toNat, if_neg (by omega), ?_⟩
    have hbyte := byte.toNat_lt
    simp only [IsUpper, Bool.and_eq_true, Bool.or_eq_true, decide_eq_true_eq]
    omega
  cases encoding with
  | codePage page =>
      refine ⟨_, if_neg (by omega), ?_⟩
      -- bytes past the table read as the replacement character, which is no mark either
      rw [List.getD_eq_getElem?_getD]
      cases hentry : page.upperHalf[byte.toNat - 0x80]? with
      | none => rfl
      | some n => exact List.all_eq_true.mp (isUpper_upperHalf page) n (List.mem_of_getElem? hentry)
  | utf16 _ | userDefined | refused | switched | national _ => exact huser

theorem le_charOf_upper (encoding : Encoding) {byte : UInt8} (h : 0x80 ≤ byte.toNat) :
    0x80 ≤ (encoding.charOf byte).toNat := by
  obtain ⟨n, hchar, hn⟩ := encoding.exists_charOf_upper h
  obtain ⟨hnumber, hlow, _⟩ := toNat_ofNat_of_isUpper hn
  rwa [hchar, hnumber]

/-- No byte reads as the character of the mark. -/
theorem charOf_ne_mark (encoding : Encoding) (byte : UInt8) : encoding.charOf byte ≠ '\uFEFF' := by
  intro hmark
  have hnumber : (encoding.charOf byte).toNat = 0xfeff := by
    rw [hmark]
    rfl
  by_cases h : byte.toNat < 0x80
  · rw [charOf_lower encoding h, Utf8.toNat_charOfNat (.inl (by omega))] at hnumber
    omega
  · obtain ⟨n, hchar, hn⟩ := encoding.exists_charOf_upper (Nat.not_lt.mp h)
    obtain ⟨hsame, _, hne⟩ := toNat_ofNat_of_isUpper hn
    rw [hchar, hsame] at hnumber
    exact hne hnumber

/-- The text of bytes in a single-byte encoding does not begin with the mark of UTF-8. -/
theorem not_utf8Mark_prefix_encode [NationalDecoders] {encoding : Encoding}
    (h : encoding.IsSingleByte) (bytes : List UInt8) :
    ¬ [0xef, 0xbb, 0xbf] <+: Utf8.encode (encoding.textOf bytes) := by
  intro hprefix
  have hhead := Utf8.head?_of_mark_prefix_encode hprefix
  rw [textOf_eq_map h] at hhead
  cases bytes with
  | nil => cases hhead
  | cons byte rest => exact encoding.charOf_ne_mark byte (Option.some.inj hhead)

/-! ## Marks -/

/-- The byte order marks of UTF-8 and of both orders of UTF-16. -/
def marks : List (List UInt8) := [[0xef, 0xbb, 0xbf], [0xfe, 0xff], [0xff, 0xfe]]

/-- Without a mark, bytes are read in the encoding that was asked for. -/
theorem decode_of_unmarked [NationalDecoders] (encoding : Encoding) {bytes : List UInt8}
    (h : ∀ mark ∈ marks, ¬ mark <+: bytes) : encoding.decode bytes = encoding.textOf bytes := by
  unfold decode
  split
  · exact absurd (List.prefix_append [0xef, 0xbb, 0xbf] _) (h _ (by decide))
  · exact absurd (List.prefix_append [0xfe, 0xff] _) (h _ (by decide))
  · exact absurd (List.prefix_append [0xff, 0xfe] _) (h _ (by decide))
  · rfl

end Encoding

end BankStatement
