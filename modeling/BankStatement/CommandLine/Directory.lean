import BankStatement.CommandLine.Command

/-!
# A directory as a host

A directory with files, the standard input, and what was shown and logged: everything that a run of
the command can change, as a value.  Outside of the directory only some devices and the directories
that every system has at its root are known.
-/

namespace BankStatement

/-- A directory.  Files are named by their path in it, with single slashes between the parts. -/
structure Directory where
  files : List (String × List UInt8)
  input : List UInt8
  shown : List UInt8
  logged : List UInt8
deriving DecidableEq, Repr

namespace Directory

/-! ## Reasons -/

def noSuchFile : String := "No such file or directory (os error 2)"
def notADirectory : String := "Not a directory (os error 20)"
def isADirectory : String := "Is a directory (os error 21)"
def noSpaceLeft : String := "No space left on device (os error 28)"
def nameTooLong : String := "File name too long (os error 36)"

/-! ## Places -/

/-- A place, as the parts of a path from the directory that has no detours.  Places above it begin
with as many pairs of dots, and those from the root begin with an empty part. -/
abbrev Place := List String

/-- The name of a place. -/
def nameOf (place : Place) : String :=
  "/".intercalate place

/-- The devices that can be opened like files: one that takes everything, one that takes nothing,
and the standard streams. -/
inductive Device where
  | null
  | full
  | input
  | output
  | diagnostics
deriving DecidableEq, Repr

/-- The names of the devices. -/
def devices : List (String × Device) :=
  [("/dev/null", .null), ("/dev/full", .full), ("/dev/stdin", .input), ("/dev/stdout", .output),
   ("/dev/stderr", .diagnostics), ("/dev/fd/0", .input), ("/dev/fd/1", .output),
   ("/dev/fd/2", .diagnostics)]

/-- The directories at the root of every system. -/
def rootDirectories : List String :=
  ["bin", "dev", "etc", "home", "lib", "mnt", "opt", "proc", "root", "run", "sbin", "srv", "sys",
   "tmp", "usr", "var"]

/-- The content of a file. -/
def content? (directory : Directory) (name : String) : Option (List UInt8) :=
  (directory.files.find? fun file => file.1 == name).map (·.2)

/-- Whether a place is a directory: one above, one at the root, or one with something in it. -/
def hasDirectory (directory : Directory) (place : Place) : Bool :=
  place.all (· == "..") || (rootDirectories.any fun name => place == ["", name]) ||
    (devices.map (·.1) ++ directory.files.map (·.1)).any fun name =>
      (nameOf place ++ "/").toList.isPrefixOf name.toList

/-- The place above; the root is above itself. -/
def above (place : Place) : Place :=
  if place = [""] then place
  else match place.getLast? with
    | none | some ".." => place ++ [".."]
    | some _ => place.dropLast

/-! ## Paths -/

/-- What a path leads to, with its place or name, or nothing for a reason. -/
inductive Lead where
  | file (name : String)
  | device (device : Device)
  | directory (place : Place)
  | vacant (name : String)
  | nothing (reason : String)
deriving DecidableEq, Repr

/-- The most bytes of a part of a path. -/
def longestPart : Nat := 255

/-- The most bytes of a path. -/
def longestPath : Nat := 4095

/-- What a part of a path leads to from the directory at a place. -/
def look (directory : Directory) (here : Place) (part : String) : Lead :=
  let name := nameOf (here ++ [part])
  if part = "." then .directory here
  else if part = ".." then .directory (above here)
  else if longestPart < part.utf8ByteSize then .nothing nameTooLong
  else if (directory.content? name).isSome then .file name
  else match devices.find? fun device => device.1 == name with
    | some device => .device device.2
    | none =>
        if directory.hasDirectory (here ++ [part]) then .directory (here ++ [part])
        else .vacant name

/-- The place of the directory to which parts of a path lead. -/
def walk (directory : Directory) (here : Place) : List String → Except String Place
  | [] => .ok here
  | part :: rest =>
      match directory.look here part with
      | .directory there => directory.walk there rest
      | .file _ | .device _ => .error notADirectory
      | .vacant _ => .error noSuchFile
      | .nothing reason => .error reason

/-- The parts of a path; slashes that follow each other count as one, and those at its ends as none.
-/
def partsOf (path : String) : List String :=
  ((path.toList.splitOn '/').filter (· ≠ [])).map String.ofList

/-- Whether a path is looked for from the root. -/
def startsAtRoot (path : String) : Bool :=
  path.toList.head? == some '/'

/-- Whether a path asks for a directory. -/
def endsInSlash (path : String) : Bool :=
  path.toList.getLast? == some '/'

/-- The place of the directory that the last part of a path is looked for in. -/
def walkToLast (directory : Directory) (path : String) : Except String Place :=
  if path.isEmpty then .error noSuchFile
  else if longestPath < path.utf8ByteSize then .error nameTooLong
  else directory.walk (if startsAtRoot path then [""] else []) (partsOf path).dropLast

/-- Where a path leads when something is to be read.  A slash after the last part asks for a
directory. -/
def lead (directory : Directory) (path : String) : Lead :=
  match directory.walkToLast path with
  | .error reason => .nothing reason
  | .ok here =>
      match (partsOf path).getLast?.map (directory.look here) with
      | none => .directory here
      | some there =>
          match there, endsInSlash path with
          | .file _, true | .device _, true => .nothing notADirectory
          | there, _ => there

/-- Where a path leads when a file is to be made if there is none.  A slash after the last part
names a directory, whether there is one or not. -/
def leadToOutput (directory : Directory) (path : String) : Lead :=
  match directory.walkToLast path with
  | .error reason => .nothing reason
  | .ok here =>
      match (partsOf path).getLast? with
      | none => .directory here
      | some part => if endsInSlash path then .directory here else directory.look here part

/-! ## Files -/

/-- The directory with the content of a file put in place of what it was. -/
def put (directory : Directory) (name : String) (bytes : List UInt8) : Directory :=
  { directory with
    files := (name, bytes) :: directory.files.filter fun file => file.1 != name }

/-- The directory with files at the given paths and a standard input, before anything is done in it.
-/
def ofFiles (files : List (String × List UInt8)) (input : List UInt8) : Directory :=
  { files := files.map fun file => (nameOf ((partsOf file.1).filter (· != ".")), file.2)
    input := input
    shown := []
    logged := [] }

/-- Whether a path can be opened to be read, which holds of a directory too. -/
def openPath (directory : Directory) (path : String) : Except String Unit :=
  match directory.lead path with
  | .file _ | .device _ | .directory _ => .ok ()
  | .vacant _ => .error noSuchFile
  | .nothing reason => .error reason

/-- The content at a path. -/
def readPath (directory : Directory) (path : String) : Except String (List UInt8) :=
  match directory.lead path with
  | .file name => .ok ((directory.content? name).getD [])
  | .device .input => .ok directory.input
  | .device _ => .ok []
  | .directory _ => .error isADirectory
  | .vacant _ => .error noSuchFile
  | .nothing reason => .error reason

/-- The directory after its content at a path was read: the standard input can be read once. -/
def afterReading (directory : Directory) (path : String) : Directory :=
  if directory.lead path = .device .input then { directory with input := [] } else directory

/-- The directory with an empty file at a path, which is the file there if there is one. -/
def createPath (directory : Directory) (path : String) : Except String Directory :=
  match directory.leadToOutput path with
  | .file name | .vacant name => .ok (directory.put name [])
  | .device _ => .ok directory
  | .directory _ => .error isADirectory
  | .nothing reason => .error reason

/-- The directory with bytes shown to the user. -/
def display (directory : Directory) (bytes : List UInt8) : Directory :=
  { directory with shown := directory.shown ++ bytes }

/-- The directory with bytes added to the diagnostics. -/
def log (directory : Directory) (bytes : List UInt8) : Directory :=
  { directory with logged := directory.logged ++ bytes }

/-- The directory with bytes written to what is at a path. -/
def writePath (directory : Directory) (path : String) (bytes : List UInt8) :
    Except String Directory :=
  match directory.leadToOutput path with
  | .file name => .ok (directory.put name ((directory.content? name).getD [] ++ bytes))
  | .device .output => .ok (directory.display bytes)
  | .device .diagnostics => .ok (directory.log bytes)
  | .device .full => if bytes = [] then .ok directory else .error noSpaceLeft
  | .device _ => .ok directory
  | .directory _ => .error isADirectory
  | .vacant _ => .error noSuchFile
  | .nothing reason => .error reason

/-! ## The host -/

/-- A step that changes the directory or fails. -/
def attempt (step : Directory → Except String Directory) : StateM Directory (Except String Unit) :=
  fun directory =>
    match step directory with
    | .ok next => (.ok (), next)
    | .error reason => (.error reason, directory)

/-- What a source delivers: bytes, or the failure to read them. -/
def sourceOf (content : Except String (List UInt8)) : Source :=
  match content with
  | .ok bytes => .ofBytes RowReader.readLimit bytes []
  | .error reason => [.failure reason]

/-- A directory as a host. -/
def host : Host (StateM Directory) where
  readFile path := fun directory => (directory.readPath path, directory.afterReading path)
  openSource target := fun directory =>
    match target with
    | .standard => (.ok (), directory)
    | .file path => (directory.openPath path, directory)
  createOutput target :=
    match target with
    | .standard => pure (.ok ())
    | .file path => attempt fun directory => directory.createPath path
  readSource target := fun directory =>
    match target with
    | .standard => (sourceOf (.ok directory.input), { directory with input := [] })
    | .file path => (sourceOf (directory.readPath path), directory.afterReading path)
  writeOutput target bytes :=
    match target with
    | .standard => attempt fun directory => .ok (directory.display bytes)
    | .file path => attempt fun directory => directory.writePath path bytes
  display bytes := fun directory => ((), directory.display bytes)
  log bytes := fun directory => ((), directory.log bytes)

/-- The exit code of the command in a directory, and the directory after it. -/
def runCommand [NationalDecoders] (directory : Directory) (arguments : List String) :
    UInt32 × Directory :=
  (Command.perform host arguments).run directory

end Directory

end BankStatement
