import BankStatement.Text.Utf8

/-!
# Sinks

A sink takes text as bytes.  It may have room for a number of bytes only: a write that does not fit
leaves the bytes that do and fails, and so does every write after it.  Its flush may fail, too.
-/

namespace BankStatement

/-- A sink with what was written to it. -/
structure Sink where
  written : List UInt8
  room : Option Nat
  flushFails : Bool
deriving DecidableEq, Repr

namespace Sink

/-- An empty sink with the given room. -/
def ofRoom (room : Option Nat) (flushFails : Bool) : Sink := ⟨[], room, flushFails⟩

/-- An empty sink that takes everything. -/
def unlimited : Sink := ofRoom none false

/-- What a write says that does not fit. -/
def writeFailure : String := "write failed"

/-- What a flush says that fails. -/
def flushFailure : String := "flush failed"

/-- The sink after a write, which reports whether all of the bytes had room. -/
def write (sink : Sink) (bytes : List UInt8) : Except String Unit × Sink :=
  match sink.room with
  | none => (.ok (), { sink with written := sink.written ++ bytes })
  | some room =>
      if bytes.length ≤ room then
        (.ok (), { sink with written := sink.written ++ bytes, room := some (room - bytes.length) })
      else
        (.error writeFailure,
          { sink with written := sink.written ++ bytes.take room, room := some 0 })

/-- Writing in two pieces, the second only when the first had room, is writing at once. -/
theorem write_append (sink : Sink) (first second : List UInt8) :
    sink.write (first ++ second) =
      match sink.write first with
      | (.ok _, next) => next.write second
      | failed => failed := by
  cases hroom : sink.room with
  | none => simp [write, hroom]
  | some room =>
      by_cases hfirst : first.length ≤ room
      · by_cases hboth : first.length + second.length ≤ room
        · have hsecond : second.length ≤ room - first.length := by omega
          simp [write, hroom, hfirst, hboth, hsecond, Nat.sub_sub]
        · have hsecond : ¬ second.length ≤ room - first.length := by omega
          simp [write, hroom, hfirst, hboth, hsecond, List.take_append,
            List.take_of_length_le hfirst]
      · have hboth : ¬ first.length + second.length ≤ room := by omega
        have hcut : (first ++ second).take room = first.take room :=
          List.take_append_of_le_length (by omega)
        simp [write, hroom, hfirst, hboth, hcut]

/-- The sink after several pieces of bytes, up to the first that does not fit. -/
def writePieces (sink : Sink) : List (List UInt8) → Except String Unit × Sink
  | [] => (.ok (), sink)
  | piece :: rest =>
      match sink.write piece with
      | (.ok _, next) => next.writePieces rest
      | (.error reason, next) => (.error reason, next)

/-- The pieces in which a line is written: its text, and what ends it. -/
def linePieces (line : String) : List (List UInt8) :=
  [Utf8.encode line.toList, Utf8.encode ['\n']]

/-- The sink after lines are written, piece by piece. -/
def writeLines (sink : Sink) (lines : List String) : Except String Unit × Sink :=
  sink.writePieces (lines.flatMap linePieces)

def flush (sink : Sink) : Except String Unit :=
  if sink.flushFails then .error flushFailure else .ok ()

/-- The text of what was written. -/
def text (sink : Sink) : String :=
  String.ofList (Utf8.decodeLossy sink.written)

/-! ## Diagnostics -/

/-- The sink after a line of diagnostics.  That it does not fit is nobody's concern. -/
def info (sink : Sink) (message : String) : Sink :=
  (sink.writeLines [message]).2

/-- The sink after a parameter with its label. -/
def echo (sink : Sink) (label value : String) : Sink :=
  sink.info (label ++ ": " ++ value)

end Sink

end BankStatement
