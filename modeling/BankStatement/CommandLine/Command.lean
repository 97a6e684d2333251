import BankStatement.CommandLine.Arguments
import BankStatement.Conversion.Run

/-!
# The command

The command shows its parameters, reads the catalog, and then lists the formats in it or converts
the source to the destination.  What it needs from its surroundings is a `Host`, so that the same
command runs in a file system and in a directory given as a value.
-/

namespace BankStatement

/-- The surroundings of the command.  Failures are given by their reason. -/
structure Host (m : Type → Type) where
  /-- The content of a file. -/
  readFile : String → m (Except String (List UInt8))
  /-- Makes sure that a source can be read. -/
  openSource : Target → m (Except String Unit)
  /-- Empties an output, or makes it if there is none. -/
  createOutput : Target → m (Except String Unit)
  /-- What a source delivers from now on. -/
  readSource : Target → m Source
  /-- Writes to an output that was created. -/
  writeOutput : Target → List UInt8 → m (Except String Unit)
  /-- Shows a text to the user. -/
  display : List UInt8 → m Unit
  /-- Adds a text to the diagnostics. -/
  log : List UInt8 → m Unit

namespace Command

/-! ## Parts of a run -/

/-- What a file says that is not text. -/
def notText : String := "stream did not contain valid UTF-8"

/-- The bytes of a line. -/
def lineBytes (line : String) : List UInt8 :=
  Utf8.encode (line.toList ++ ['\n'])

/-- The parameters as they are shown. -/
def parameters (arguments : Arguments) : List UInt8 :=
  ((((Sink.unlimited.echo "Source" arguments.sourceTarget.toText).echo
    "Format" arguments.formatName).echo
    "Destination" arguments.destinationTarget.toText).echo
    "Config" arguments.configPath).written

/-- The payer that the arguments name, with the default where they name none. -/
def payer (arguments : Arguments) : Payer :=
  ⟨arguments.payerAccount.getD Payer.default.account,
    arguments.payerBank.getD Payer.default.bank⟩

/-- The catalog in the content of a file, if it could be read. -/
def catalogOf (path : String) (content : Except String (List UInt8)) :
    Except CatalogError Catalog :=
  match content with
  | .error reason => .error (.unreadable path reason)
  | .ok bytes =>
      match Utf8.decode? bytes with
      | .none => .error (.unreadable path notText)
      | .some text => Catalog.ofText (String.ofList text)

/-! ## Runs -/

variable [NationalDecoders] {m : Type → Type} [Monad m]

/-- Converts the source to the destination with a format. -/
def convert (host : Host m) (arguments : Arguments) (format : Format) :
    m (Except ConversionError Unit) := do
  let source := arguments.sourceTarget
  let destination := arguments.destinationTarget
  match ← host.openSource source with
  | .error reason => return .error (.openSource source.toText reason)
  | .ok _ =>
      match ← host.createOutput destination with
      | .error reason => return .error (.createOutput destination.toText reason)
      | .ok _ =>
          let conversion : Conversion := ⟨format, payer arguments, Ofx.defaultAccountType⟩
          let outcome := conversion.run (← host.readSource source) .unlimited .unlimited
          host.log outcome.log.written
          match outcome.result with
          | .error e => return .error e
          | .ok _ =>
              match ← host.writeOutput destination outcome.output.written with
              | .error reason => return .error (.write reason)
              | .ok _ => return .ok ()

/-- Runs the command with arguments that were understood. -/
def run (host : Host m) (arguments : Arguments) : m (Except ConversionError Unit) := do
  host.log (parameters arguments)
  match catalogOf arguments.configPath (← host.readFile arguments.configPath) with
  | .error e => return .error (.catalog e)
  | .ok catalog =>
      if arguments.listFormats then
        host.display (catalog.names.flatMap lineBytes)
        return .ok ()
      else
        match catalog.find arguments.formatName with
        | .error e => return .error (.catalog e)
        | .ok format => convert host arguments format

/-- What is shown to those who ask for help. -/
def help : List String :=
  ["Convert bank CSV exports to OFX statements", "", "Options:",
   "  -f, --format <FORMAT>                Format name [default: spv-kreditt]",
   "  -c, --config <CONFIG>                Specification document [default: specs.json]",
   "  -s, --source <SOURCE>                Input CSV file (- for stdin) [default: -]",
   "  -d, --destination <DESTINATION>      Output OFX file (- for stdout) [default: -]",
   "      --list-formats                   List the formats in the document and exit",
   "      --payer-account <PAYER_ACCOUNT>  Account number written to the statement",
   "      --payer-bank <PAYER_BANK>        Bank id written to the statement",
   "  -v, --verbose...                     Increase log verbosity",
   "  -h, --help                           Print help"]

/-- Runs the command and gives its exit code: 1 when it failed, and 2 when the arguments could not
be understood. -/
def perform (host : Host m) (arguments : List String) : m UInt32 := do
  match Arguments.read arguments with
  | .rejected =>
      host.log (lineBytes "error: invalid arguments; for more information, try '--help'")
      return 2
  | .help =>
      host.display (help.flatMap lineBytes)
      return 0
  | .run arguments =>
      match ← run host arguments with
      | .ok _ => return 0
      | .error e =>
          host.log (lineBytes ("Error: " ++ e.message))
          return 1

end Command

end BankStatement
