/-!
# Splitting bytes into rows

Rows end with a line feed or a carriage return, and the delimiter ends a field.  A field that begins
with a quote runs to the next quote that is not doubled; delimiters and line ends inside it are part
of it, and what follows the closing quote is taken as written.  Line ends between rows belong to no
row, so there are no empty rows.
-/

namespace BankStatement

/-- A row of the input: the fields as bytes, and the number of the line on which the reader stood
when it set out to read the row, counting line feeds. -/
structure RawRow where
  line : Nat
  fields : List (List UInt8)
deriving DecidableEq, Repr

/-- Where the splitter is: between rows, at the start of a field, in a field without quotes, between
quotes, or after a quote that may end the quotes or be half of a doubled one. -/
inductive SplitPhase where
  | betweenRows
  | fieldStart
  | plain
  | quoted
  | quoteSeen
deriving DecidableEq, Repr

/-- The state of the splitter: the phase, the current field and the fields before it, both with the
last element first, the line of the current row, and the current line. -/
structure Splitter where
  phase : SplitPhase
  field : List UInt8
  fields : List (List UInt8)
  rowLine : Nat
  line : Nat
deriving DecidableEq, Repr

namespace Splitter

/-- The splitter before the first byte. -/
def initial : Splitter := ⟨.betweenRows, [], [], 1, 1⟩

def quote : UInt8 := 0x22
def lineFeed : UInt8 := 0x0a
def carriageReturn : UInt8 := 0x0d

def isLineEnd (byte : UInt8) : Bool :=
  byte == lineFeed || byte == carriageReturn

/-- The row read so far, the current field included. -/
def row (s : Splitter) : RawRow :=
  ⟨s.rowLine, (s.field.reverse :: s.fields).reverse⟩

/-- The splitter with one more byte in the current field. -/
def push (s : Splitter) (phase : SplitPhase) (byte : UInt8) : Splitter :=
  { s with phase, field := byte :: s.field }

/-- The splitter at the start of the next field. -/
def nextField (s : Splitter) : Splitter :=
  { s with phase := .fieldStart, field := [], fields := s.field.reverse :: s.fields }

/-- The splitter after the end of a row. -/
def nextRow (s : Splitter) : Splitter :=
  ⟨.betweenRows, [], [], s.line, s.line⟩

/-- The splitter with its line counted on past a byte. -/
def countLine (s : Splitter) (byte : UInt8) : Splitter :=
  if byte = lineFeed then { s with line := s.line + 1 } else s

/-- A byte in a field, outside quotes. -/
def fieldByte (delimiter : UInt8) (s : Splitter) (byte : UInt8) : Splitter × Option RawRow :=
  if byte = delimiter then (s.nextField, none)
  else if isLineEnd byte then (s.nextRow, some s.row)
  else (s.push .plain byte, none)

/-- A byte at the start of a field. -/
def fieldStartByte (delimiter : UInt8) (s : Splitter) (byte : UInt8) : Splitter × Option RawRow :=
  if byte = quote then ({ s with phase := .quoted }, none) else s.fieldByte delimiter byte

/-- The splitter after one more byte, with the row that the byte ends. -/
def step (delimiter : UInt8) (before : Splitter) (byte : UInt8) : Splitter × Option RawRow :=
  let s := before.countLine byte
  match s.phase with
  | .betweenRows =>
      if isLineEnd byte then (s, none) else s.fieldStartByte delimiter byte
  | .fieldStart => s.fieldStartByte delimiter byte
  | .plain => s.fieldByte delimiter byte
  | .quoted =>
      if byte = quote then ({ s with phase := .quoteSeen }, none) else (s.push .quoted byte, none)
  | .quoteSeen => if byte = quote then (s.push .quoted byte, none) else s.fieldByte delimiter byte

/-- The row that the end of the input ends. -/
def finish (s : Splitter) : Option RawRow :=
  if s.phase = .betweenRows then none else some s.row

/-- Reads on to the end of a row.  When the bytes end first there is no row yet; otherwise the bytes
after the row are left. -/
def readRow (delimiter : UInt8) (s : Splitter) : List UInt8 → Option RawRow × Splitter × List UInt8
  | [] => (none, s, [])
  | byte :: rest =>
      match s.step delimiter byte with
      | (next, some row) => (some row, next, rest)
      | (next, none) => readRow delimiter next rest

/-- A row ends with one of the bytes. -/
theorem length_readRow_le (delimiter : UInt8) (s : Splitter) (byte : UInt8) (rest : List UInt8) :
    (s.readRow delimiter (byte :: rest)).2.2.length ≤ rest.length := by
  induction rest generalizing s byte with
  | nil =>
      simp only [readRow]
      split <;> simp
  | cons second rest ih =>
      rw [readRow]
      split
      · simp
      · rename_i next _
        exact Nat.le_succ_of_le (ih next second)

end Splitter

end BankStatement
