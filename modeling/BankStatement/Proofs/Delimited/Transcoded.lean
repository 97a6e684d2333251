import BankStatement.Proofs.Delimited.QuotedRows
import BankStatement.Proofs.Encoding.SingleByte

/-!
# Splitting and transcoding commute

Rows in a single-byte encoding can be had in two ways: the bytes are turned into UTF-8 and then
split, or they are split as they are and the fields are turned into UTF-8.  Both give the same rows
on the same lines (`readRows_transcoded`).

## Strategy

Let every byte have an image that is the byte itself for ASCII and otherwise a number of bytes that
are not ASCII (`KeepsAscii`).  The splitter asks of a byte only whether it is the delimiter, a quote
or a line end, and all of these are ASCII.  A byte past ASCII is pushed into the current field in
every phase, and so is each byte of its image (`step_upper`, `run_upper`); the first of them moves
the phase to where the others leave it.  So one step on a byte and a run over its image keep the
same relation (`run_image`): the states agree but for the image taken of what is in their fields
(`mapBytes`).  By induction this holds for all bytes (`run_mapBytes`), and it remains to see that no
mark is dropped on either side.
-/

namespace BankStatement

/-- The row with the image of every byte in its fields. -/
def RawRow.mapBytes (image : UInt8 → List UInt8) (row : RawRow) : RawRow :=
  { row with fields := row.fields.map fun field => field.flatMap image }

namespace Splitter

/-- Images of bytes among which ASCII stays as it is and nothing else becomes ASCII. -/
structure KeepsAscii (image : UInt8 → List UInt8) : Prop where
  lower : ∀ byte, byte.toNat < 0x80 → image byte = [byte]
  ne_nil : ∀ byte, image byte ≠ []
  upper : ∀ byte, 0x80 ≤ byte.toNat → ∀ part ∈ image byte, 0x80 ≤ part.toNat

/-- The splitter with the image of every byte in its fields. -/
def mapBytes (image : UInt8 → List UInt8) (s : Splitter) : Splitter :=
  { s with
    field := (s.field.reverse.flatMap image).reverse
    fields := s.fields.map fun field => field.flatMap image }

variable (image : UInt8 → List UInt8) (s : Splitter)

@[simp] theorem mapBytes_phase : (s.mapBytes image).phase = s.phase := rfl

@[simp] theorem mapBytes_initial : initial.mapBytes image = initial := rfl

@[simp] theorem row_mapBytes : (s.mapBytes image).row = s.row.mapBytes image := by
  simp [row, mapBytes, RawRow.mapBytes]

@[simp] theorem nextField_mapBytes : (s.mapBytes image).nextField = s.nextField.mapBytes image := by
  simp [nextField, mapBytes]

@[simp] theorem nextRow_mapBytes : (s.mapBytes image).nextRow = s.nextRow.mapBytes image := rfl

@[simp] theorem countLine_mapBytes (byte : UInt8) :
    (s.mapBytes image).countLine byte = (s.countLine byte).mapBytes image := by
  unfold countLine
  split <;> rfl

@[simp] theorem withPhase_mapBytes (phase : SplitPhase) :
    ({ s.mapBytes image with phase } : Splitter) = ({ s with phase } : Splitter).mapBytes image :=
  rfl

theorem finish_mapBytes : (s.mapBytes image).finish = s.finish.map (RawRow.mapBytes image) := by
  unfold finish
  rw [mapBytes_phase, row_mapBytes]
  split <;> rfl

/-! ## ASCII -/

variable {image s}

theorem push_mapBytes {byte : UInt8} (h : image byte = [byte]) (phase : SplitPhase) :
    (s.mapBytes image).push phase byte = (s.push phase byte).mapBytes image := by
  simp [push, mapBytes, h]

theorem fieldByte_mapBytes {byte : UInt8} (h : image byte = [byte]) (delimiter : UInt8) :
    (s.mapBytes image).fieldByte delimiter byte =
      ((s.fieldByte delimiter byte).1.mapBytes image,
        (s.fieldByte delimiter byte).2.map (RawRow.mapBytes image)) := by
  unfold fieldByte
  rw [nextField_mapBytes, nextRow_mapBytes, row_mapBytes, push_mapBytes h]
  split
  · rfl
  · split <;> rfl

theorem fieldStartByte_mapBytes {byte : UInt8} (h : image byte = [byte]) (delimiter : UInt8) :
    (s.mapBytes image).fieldStartByte delimiter byte =
      ((s.fieldStartByte delimiter byte).1.mapBytes image,
        (s.fieldStartByte delimiter byte).2.map (RawRow.mapBytes image)) := by
  unfold fieldStartByte
  rw [fieldByte_mapBytes h, withPhase_mapBytes]
  split <;> rfl

/-- A byte that is its own image. -/
theorem step_mapBytes {byte : UInt8} (h : image byte = [byte]) (delimiter : UInt8) :
    (s.mapBytes image).step delimiter byte =
      ((s.step delimiter byte).1.mapBytes image,
        (s.step delimiter byte).2.map (RawRow.mapBytes image)) := by
  unfold step
  simp only [countLine_mapBytes, mapBytes_phase, fieldStartByte_mapBytes h, fieldByte_mapBytes h,
    push_mapBytes h, withPhase_mapBytes]
  split
  · split <;> rfl
  · rfl
  · rfl
  · split <;> rfl
  · split <;> rfl

/-! ## Past ASCII -/

/-- The phase after a byte that has no meaning of its own. -/
def phaseInField (phase : SplitPhase) : SplitPhase :=
  if phase = .quoted then .quoted else .plain

/-- A byte past ASCII goes into the field. -/
theorem step_upper {delimiter byte : UInt8} (hdelimiter : delimiter.toNat < 0x80)
    (hbyte : 0x80 ≤ byte.toNat) (s : Splitter) :
    s.step delimiter byte = (s.push (phaseInField s.phase) byte, none) := by
  have hne : ∀ other : UInt8, other.toNat < 0x80 → byte ≠ other := by
    rintro other hother rfl
    omega
  have hquote : byte ≠ quote := hne quote (by decide)
  have hfeed : byte ≠ lineFeed := hne lineFeed (by decide)
  have hreturn : byte ≠ carriageReturn := hne carriageReturn (by decide)
  have hdel : byte ≠ delimiter := hne delimiter hdelimiter
  have hline : isLineEnd byte = false := by simp [isLineEnd, hfeed, hreturn]
  unfold step
  rw [countLine, if_neg hfeed]
  cases hphase : s.phase <;>
    simp [phaseInField, hphase, hline, fieldStartByte, hquote, fieldByte, hdel]

/-- Bytes past ASCII go into the field one after the other. -/
theorem run_upper {delimiter : UInt8} (hdelimiter : delimiter.toNat < 0x80) {bytes : List UInt8}
    (hbytes : ∀ byte ∈ bytes, 0x80 ≤ byte.toNat) (hne : bytes ≠ []) (s : Splitter) :
    s.run delimiter bytes =
      ([], { s with phase := phaseInField s.phase, field := bytes.reverse ++ s.field }) := by
  induction bytes generalizing s with
  | nil => exact absurd rfl hne
  | cons byte rest ih =>
      obtain ⟨hbyte, hrest⟩ := List.forall_mem_cons.mp hbytes
      rw [run_cons_of_no_row (step_upper hdelimiter hbyte s)]
      by_cases hlast : rest = []
      · rw [hlast]
        rfl
      · -- the first byte has brought the phase to where it stays
        have hstays : phaseInField (phaseInField s.phase) = phaseInField s.phase := by
          cases s.phase <;> rfl
        rw [ih hrest hlast]
        simp [push, hstays]

/-! ## Both -/

/-- A run over the image of a byte does what a step on the byte does. -/
theorem run_image (himage : KeepsAscii image) {delimiter : UInt8}
    (hdelimiter : delimiter.toNat < 0x80) (s : Splitter) (byte : UInt8) :
    (s.mapBytes image).run delimiter (image byte) =
      ((s.step delimiter byte).2.toList.map (RawRow.mapBytes image),
        (s.step delimiter byte).1.mapBytes image) := by
  by_cases hbyte : byte.toNat < 0x80
  · have hsame := himage.lower byte hbyte
    rw [hsame, run_cons, step_mapBytes hsame, run_nil, List.append_nil]
    cases (s.step delimiter byte).2 <;> rfl
  · have hupper : 0x80 ≤ byte.toNat := Nat.not_lt.mp hbyte
    rw [run_upper hdelimiter (himage.upper byte hupper) (himage.ne_nil byte),
      step_upper hdelimiter hupper]
    simp [push, mapBytes]

/-- The rows of the images are the images of the rows. -/
theorem run_mapBytes (himage : KeepsAscii image) {delimiter : UInt8}
    (hdelimiter : delimiter.toNat < 0x80) (s : Splitter) (bytes : List UInt8) :
    (s.mapBytes image).run delimiter (bytes.flatMap image) =
      ((s.run delimiter bytes).1.map (RawRow.mapBytes image),
        (s.run delimiter bytes).2.mapBytes image) := by
  induction bytes generalizing s with
  | nil => rfl
  | cons byte rest ih =>
      rw [List.flatMap_cons, run_concat, run_image himage hdelimiter, ih, run_cons,
        List.map_append]

end Splitter

/-! ## Rows of an encoding -/

theorem Encoding.keepsAscii_charOf (encoding : Encoding) :
    Splitter.KeepsAscii fun byte => Utf8.encodeChar (encoding.charOf byte) where
  lower byte hbyte := by
    have hnumber : (Char.ofNat byte.toNat).toNat = byte.toNat :=
      Utf8.toNat_charOfNat (.inl (by omega))
    rw [encoding.charOf_lower hbyte, Utf8.encodeChar_of_ascii (by rwa [hnumber]), hnumber,
      UInt8.ofNat_toNat]
  ne_nil byte := Utf8.encodeChar_ne_nil _
  upper byte hbyte part hpart := Utf8.le_of_mem_encodeChar (encoding.le_charOf_upper hbyte) hpart

theorem lt_of_delimiterByte {c : Char} {delimiter : UInt8} (h : delimiterByte c = .ok delimiter) :
    delimiter.toNat < 0x80 := by
  unfold delimiterByte at h
  split at h
  · cases h
  · split at h
    · rename_i hascii
      cases h
      rwa [Utf8.toNat_ofNat_of_lt (by omega)]
    · cases h

section

variable [NationalDecoders]

/-- The row with the text that its fields have in an encoding, as UTF-8. -/
def RawRow.decoded (encoding : Encoding) (row : RawRow) : RawRow :=
  { row with fields := row.fields.map fun field => Utf8.encode (encoding.textOf field) }

/-- The rows of a reading with their text as UTF-8. -/
def RowReading.decoded (encoding : Encoding) (reading : RowReading) : RowReading :=
  { reading with rows := reading.rows.map (RawRow.decoded encoding) }

theorem RawRow.decoded_eq_mapBytes {encoding : Encoding} (h : encoding.IsSingleByte) :
    decoded encoding = mapBytes fun byte => Utf8.encodeChar (encoding.charOf byte) := by
  funext row
  have hfield : ∀ field : List UInt8, Utf8.encode (encoding.textOf field) =
      field.flatMap fun byte => Utf8.encodeChar (encoding.charOf byte) := by
    intro field
    rw [Encoding.textOf_eq_map h, Utf8.encode, List.flatMap_map]
  simp only [decoded, mapBytes, hfield]

/-- What a transcoder delivers of an input without a mark. -/
theorem Transcoder.bytes_toSource_of_unmarked (encoding : Encoding) {source : Source}
    (hsource : source.NeverFails) (hmark : ∀ mark ∈ Encoding.marks, ¬ mark <+: source.bytes) :
    ((ofSource encoding source).toSource RowReader.readLimit).bytes =
      Utf8.encode (encoding.textOf source.bytes) := by
  rw [bytes_toSource (consistent_ofSource encoding source) hsource (by decide), pending_ofSource,
    Encoding.decode_of_unmarked encoding hmark]

end

namespace Format

/-- The format with its encoding set, or without one. -/
def withEncoding (format : Format) (label : Option String) : Format :=
  { format with encodingLabel := label }

section

variable [NationalDecoders]

/-- The rows of a source, in a format that is read in another encoding than UTF-8. -/
theorem readRows_of_encoding (format : Format) {delimiter : UInt8} {encoding : Encoding}
    (hdelimiter : delimiterByte format.delimiter = .ok delimiter)
    (hencoding : Encoding.resolve format.encodingLabel = .ok (some encoding)) (source : Source) :
    format.readRows source =
      .ok (RowReader.ofSource delimiter
        ((Transcoder.ofSource encoding source).toSource RowReader.readLimit)).rows := by
  have hdialect : format.dialect = .ok ⟨delimiter, some encoding⟩ := by
    unfold dialect
    rw [hdelimiter]
    simp only [hencoding]
  unfold readRows rowReader
  rw [hdialect]
  rfl

/-- A delimiter that cannot be used is met before anything is read. -/
theorem readRows_of_delimiterError (format : Format) {e : DelimiterError}
    (h : delimiterByte format.delimiter = .error e) (source : Source) :
    format.readRows source = .error (.invalidFormat format.name (.delimiter e)) := by
  have hdialect : format.dialect = .error (.delimiter e) := by
    unfold dialect
    rw [h]
  unfold readRows rowReader
  rw [hdialect]
  rfl

/-- **Splitting and transcoding commute.**  In a single-byte encoding, an input without a byte order
mark has the rows that the same bytes have in no encoding, on the same lines, with the text of each
field in place of its bytes.  A format whose delimiter cannot be used is refused in the same way
with the encoding and without it. -/
theorem readRows_transcoded (format : Format) {label : String} {encoding : Encoding}
    (hlabel : Encoding.resolve (some label) = .ok (some encoding))
    (hsingle : encoding.IsSingleByte) {source plain : Source} (hsource : source.NeverFails)
    (hplain : plain.NeverFails) (hbytes : source.bytes = plain.bytes)
    (hmark : ∀ mark ∈ Encoding.marks, ¬ mark <+: source.bytes) :
    (format.withEncoding (some label)).readRows source =
      ((format.withEncoding none).readRows plain).map (RowReading.decoded encoding) := by
  cases hdelimiter : delimiterByte format.delimiter with
  | error e =>
      rw [readRows_of_delimiterError (format.withEncoding (some label)) hdelimiter,
        readRows_of_delimiterError (format.withEncoding none) hdelimiter]
      rfl
  | ok delimiter =>
      let image := fun byte => Utf8.encodeChar (encoding.charOf byte)
      have himage : Splitter.KeepsAscii image := encoding.keepsAscii_charOf
      have hascii : delimiter.toNat < 0x80 := lt_of_delimiterByte hdelimiter
      -- the transcoded input, as the images of the bytes
      have htext : ((Transcoder.ofSource encoding source).toSource RowReader.readLimit).bytes =
          plain.bytes.flatMap image := by
        rw [Transcoder.bytes_toSource_of_unmarked encoding hsource hmark, hbytes,
          Encoding.textOf_eq_map hsingle, Utf8.encode, List.flatMap_map]
      have hnever :
          ((Transcoder.ofSource encoding source).toSource RowReader.readLimit).NeverFails :=
        Transcoder.neverFails_toSource hsource _
      -- neither side begins with the mark of UTF-8
      have hcoded : ¬ utf8Mark <+:
          ((Transcoder.ofSource encoding source).toSource RowReader.readLimit).bytes := by
        rw [Transcoder.bytes_toSource_of_unmarked encoding hsource hmark]
        exact Encoding.not_utf8Mark_prefix_encode hsingle _
      have hraw : ¬ utf8Mark <+: plain.bytes := by
        rw [← hbytes]
        exact hmark utf8Mark (by decide)
      have hrun := Splitter.run_mapBytes himage hascii .initial plain.bytes
      rw [Splitter.mapBytes_initial] at hrun
      rw [readRows_of_encoding (format.withEncoding (some label)) hdelimiter hlabel,
        readRows_of_utf8 (format.withEncoding none) hdelimiter rfl,
        RowReader.rows_ofSource_of_unmarked delimiter hnever hcoded,
        RowReader.rows_ofSource_of_unmarked delimiter hplain hraw, htext, hrun]
      simp only [Except.map, RowReading.decoded, RawRow.decoded_eq_mapBytes hsingle,
        Splitter.finish_mapBytes, List.map_append]
      cases (Splitter.initial.run delimiter plain.bytes).2.finish <;> rfl

end

attribute [local instance] NationalDecoders.asciiOnly

/-- A quoted field, a byte that the code page leaves undefined and a last row without a line end,
one byte at a time on the one side and all at once on the other. -/
theorem readRows_transcoded_windows1252 :
    let bytes : List UInt8 := [0x42, 0x6c, 0xe5, 0x3b, 0x22, 0x3b, 0xe6, 0x22, 0x0d, 0x0a, 0x81]
    let source := Source.ofBytes 1 bytes []
    let plain := Source.ofBytes 100 bytes []
    Encoding.resolve (some "Windows-1252 ") = .ok (some (.codePage .windows1252)) ∧
      Encoding.IsSingleByte (.codePage .windows1252) ∧ source.NeverFails ∧ plain.NeverFails ∧
      source.bytes = plain.bytes ∧ (∀ mark ∈ Encoding.marks, ¬ mark <+: source.bytes) ∧
      (exampleFormat.withEncoding (some "Windows-1252 ")).readRows source =
        ((exampleFormat.withEncoding none).readRows plain).map
          (RowReading.decoded (.codePage .windows1252)) := by
  intro bytes source plain
  have hlabel : Encoding.resolve (some "Windows-1252 ") = .ok (some (.codePage .windows1252)) :=
    rfl
  have hend : Source.NeverFails [] := by simp [Source.NeverFails]
  have hsource : source.NeverFails := Source.neverFails_ofBytes 1 bytes hend
  have hplain : plain.NeverFails := Source.neverFails_ofBytes 100 bytes hend
  have hcut : source.bytes = bytes := by
    rw [Source.bytes_ofBytes (by decide), Source.bytes_nil, List.append_nil]
  have hwhole : plain.bytes = bytes := by
    rw [Source.bytes_ofBytes (by decide), Source.bytes_nil, List.append_nil]
  have hmark : ∀ mark ∈ Encoding.marks, ¬ mark <+: source.bytes := by
    rw [hcut]
    decide
  exact ⟨hlabel, trivial, hsource, hplain, hcut.trans hwhole.symm, hmark,
    readRows_transcoded exampleFormat hlabel trivial hsource hplain (hcut.trans hwhole.symm) hmark⟩

end Format

end BankStatement
