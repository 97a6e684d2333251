import BankStatement.CommandLine.Command

/-!
# The program

The command in the file system and with the standard streams of the process.  It has no tables of
national sets, and reads the ASCII in them.
-/

namespace BankStatement.Program

/-- The reason of a failure, in the words of the operating system. -/
def reason (e : IO.Error) : String :=
  match e with
  | .noFileOrDirectory .. => "No such file or directory (os error 2)"
  | .permissionDenied .. => "Permission denied (os error 13)"
  | .inappropriateType _ code details => details ++ " (os error " ++ toString code ++ ")"
  | e => toString e

/-- The result of an action, or the reason why it failed. -/
def attempt {α : Type} (action : IO α) : IO (Except String α) := do
  match ← action.toBaseIO with
  | .ok value => return .ok value
  | .error e => return .error (reason e)

/-- All bytes of a stream. -/
partial def readAll (stream : IO.FS.Stream) (sofar : List UInt8) : IO (List UInt8) := do
  let chunk ← stream.read 65536
  if chunk.isEmpty then return sofar else readAll stream (sofar ++ chunk.toList)

/-- The content of a file. -/
def readFile (path : String) : IO (List UInt8) := do
  return (← IO.FS.readBinFile path).toList

/-- What a source delivers: bytes, or the failure to read them. -/
def sourceOf (content : Except String (List UInt8)) : Source :=
  match content with
  | .ok bytes => .ofBytes RowReader.readLimit bytes []
  | .error message => [.failure message]

/-- The file system and the standard streams. -/
def host : Host IO where
  readFile path := attempt (readFile path)
  openSource
    | .standard => return .ok ()
    | .file path => attempt do
        let _ ← IO.FS.Handle.mk path .read
  createOutput
    | .standard => return .ok ()
    | .file path => attempt (IO.FS.writeBinFile path .empty)
  readSource
    | .standard => do return sourceOf (← attempt do readAll (← IO.getStdin) [])
    | .file path => do return sourceOf (← attempt (readFile path))
  writeOutput
    | .standard, bytes => attempt do
        let stream ← IO.getStdout
        stream.write (ByteArray.mk bytes.toArray)
        stream.flush
    | .file path, bytes => attempt (IO.FS.writeBinFile path (ByteArray.mk bytes.toArray))
  display bytes := do (← IO.getStdout).write (ByteArray.mk bytes.toArray)
  log bytes := do (← IO.getStderr).write (ByteArray.mk bytes.toArray)

end BankStatement.Program

/-- Runs the command with the arguments of the process. -/
def main (arguments : List String) : IO UInt32 :=
  let _ := BankStatement.NationalDecoders.asciiOnly
  BankStatement.Command.perform BankStatement.Program.host arguments
