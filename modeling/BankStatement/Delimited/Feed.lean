import BankStatement.Delimited.Reader

/-!
# Splitting a whole input

The rows of an input given as a whole, defined without a buffer: all bytes up to the end of the
source or to its first failure are split in one go.
-/

namespace BankStatement

/-- Bytes up to the end of the input, or up to a failure. -/
structure Feed where
  bytes : List UInt8
  failure? : Option String
deriving DecidableEq, Repr

namespace Feed

/-- More bytes in front. -/
def prepend (bytes : List UInt8) (feed : Feed) : Feed :=
  { feed with bytes := bytes ++ feed.bytes }

/-- Everything that a source delivers until it fails. -/
def ofDeliveries : Source → Feed
  | [] => ⟨[], none⟩
  | .failure message :: _ => ⟨[], some message⟩
  | .bytes head tail :: rest => (ofDeliveries rest).prepend (head :: tail)

/-- Everything that a source delivers, without a byte order mark at the start. -/
def ofSource (source : Source) : Feed :=
  match source.read RowReader.readLimit with
  | (.ok [0xef, 0xbb, 0xbf], _) => ⟨[], none⟩
  | (.ok (0xef :: 0xbb :: 0xbf :: first), rest) => (ofDeliveries rest).prepend first
  | _ => ofDeliveries source

end Feed

/-- The rows of bytes, from a state on, with the state at their end. -/
def Splitter.run (delimiter : UInt8) (s : Splitter) : List UInt8 → List RawRow × Splitter
  | [] => ([], s)
  | byte :: rest =>
      let (rows, last) := run delimiter (s.step delimiter byte).1 rest
      ((s.step delimiter byte).2.toList ++ rows, last)

/-- The rows of a feed, from a state on.  A row that a failure cuts off is not among them. -/
def RowReading.ofFeedFrom (delimiter : UInt8) (s : Splitter) (feed : Feed) : RowReading :=
  let (rows, last) := s.run delimiter feed.bytes
  match feed.failure? with
  | some message => ⟨rows, some message⟩
  | none => ⟨rows ++ last.finish.toList, none⟩

/-- The rows of a feed. -/
def RowReading.ofFeed (delimiter : UInt8) (feed : Feed) : RowReading :=
  .ofFeedFrom delimiter .initial feed

end BankStatement
