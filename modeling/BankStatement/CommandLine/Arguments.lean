import BankStatement.CommandLine.Target

/-!
# Arguments

The arguments of the command.  Options that take a value may be given once; the value follows as the
next argument, after an equals sign, or directly after the letter of an option.  The next argument
is a value only when it does not look like an option.  Letters of options may share a dash.
-/

namespace BankStatement

/-- What the arguments ask for. -/
structure Arguments where
  format : Option String
  config : Option String
  source : Option String
  destination : Option String
  listFormats : Bool
  payerAccount : Option String
  payerBank : Option String
  verbosity : Nat
deriving DecidableEq, Repr

namespace Arguments

/-- No argument is given. -/
def none : Arguments := ⟨.none, .none, .none, .none, false, .none, .none, 0⟩

def formatName (arguments : Arguments) : String :=
  arguments.format.getD "spv-kreditt"

def configPath (arguments : Arguments) : String :=
  arguments.config.getD "specs.json"

def sourceTarget (arguments : Arguments) : Target :=
  .ofText (arguments.source.getD "-")

def destinationTarget (arguments : Arguments) : Target :=
  .ofText (arguments.destination.getD "-")

/-! ## Options -/

/-- The options that take a value. -/
inductive ValueOption where
  | format
  | config
  | source
  | destination
  | payerAccount
  | payerBank
deriving DecidableEq, Repr

/-- The options. -/
inductive Opt where
  | value (option : ValueOption)
  | listFormats
  | verbose
  | help
deriving DecidableEq, Repr

/-- The option of a word after two dashes. -/
def optionOfWord? : String → Option Opt
  | "format" => some (.value .format)
  | "config" => some (.value .config)
  | "source" => some (.value .source)
  | "destination" => some (.value .destination)
  | "payer-account" => some (.value .payerAccount)
  | "payer-bank" => some (.value .payerBank)
  | "list-formats" => some .listFormats
  | "verbose" => some .verbose
  | "help" => some .help
  | _ => .none

/-- The option of a letter after one dash. -/
def optionOfLetter? : Char → Option Opt
  | 'f' => some (.value .format)
  | 'c' => some (.value .config)
  | 's' => some (.value .source)
  | 'd' => some (.value .destination)
  | 'v' => some .verbose
  | 'h' => some .help
  | _ => .none

/-- A value that is given for the first time. -/
def once (old : Option String) (value : String) : Option (Option String) :=
  match old with
  | .none => some (some value)
  | some _ => .none

/-- The arguments with one more value.  The path of the document must not be empty. -/
def give (arguments : Arguments) (option : ValueOption) (value : String) : Option Arguments :=
  match option with
  | .format => (once arguments.format value).map fun format => { arguments with format }
  | .config =>
      if value.isEmpty then .none
      else (once arguments.config value).map fun config => { arguments with config }
  | .source => (once arguments.source value).map fun source => { arguments with source }
  | .destination =>
      (once arguments.destination value).map fun destination => { arguments with destination }
  | .payerAccount =>
      (once arguments.payerAccount value).map fun payerAccount => { arguments with payerAccount }
  | .payerBank =>
      (once arguments.payerBank value).map fun payerBank => { arguments with payerBank }

/-! ## Reading -/

/-- What comes of arguments: a request, a request for help, or nothing that can be followed. -/
inductive Reading where
  | run (arguments : Arguments)
  | help
  | rejected
deriving DecidableEq, Repr

/-- Whether an argument cannot be a value that stands by itself. -/
def looksLikeOption (argument : String) : Bool :=
  argument != "-" && argument.toList.head? == some '-'

/-- What the letters after a dash do: they are all flags, the last of them waits for a value, or
they end the reading. -/
inductive Letters where
  | flags (arguments : Arguments)
  | waiting (arguments : Arguments) (option : ValueOption)
  | stop (reading : Reading)

/-- Reads the letters after a dash. -/
def readLetters (arguments : Arguments) : List Char → Letters
  | [] => .flags arguments
  | letter :: rest =>
      match optionOfLetter? letter with
      | some .verbose =>
          readLetters { arguments with verbosity := arguments.verbosity + 1 } rest
      | some (.value option) =>
          match rest with
          | [] => .waiting arguments option
          | first :: more =>
              let value := if first = '=' then more else first :: more
              match arguments.give option (String.ofList value) with
              | some next => .flags next
              | .none => .stop .rejected
      | some .help => .stop .help
      | _ => .stop .rejected

/-- The word before the first equals sign, and the value after it. -/
def splitWord (word : List Char) : String × Option String :=
  let name := word.takeWhile (· ≠ '=')
  match word.dropWhile (· ≠ '=') with
  | [] => (String.ofList name, .none)
  | _ :: value => (String.ofList name, some (String.ofList value))

/-- Reads arguments. -/
def readFrom (arguments : Arguments) : List String → Reading
  | [] => .run arguments
  | argument :: rest =>
      match argument.toList with
      | '-' :: '-' :: word =>
          match word, rest with
          | [], [] => .run arguments
          | [], _ => .rejected
          | word, rest =>
              let (name, value) := splitWord word
              match optionOfWord? name, value with
              | some (.value option), some value =>
                  match arguments.give option value with
                  | some next => readFrom next rest
                  | .none => .rejected
              | some (.value option), .none =>
                  match rest with
                  | value :: rest =>
                      if looksLikeOption value then .rejected
                      else match arguments.give option value with
                        | some next => readFrom next rest
                        | .none => .rejected
                  | [] => .rejected
              | some .listFormats, .none =>
                  if arguments.listFormats then .rejected
                  else readFrom { arguments with listFormats := true } rest
              | some .verbose, .none =>
                  readFrom { arguments with verbosity := arguments.verbosity + 1 } rest
              | some .help, .none => .help
              | _, _ => .rejected
      | '-' :: letter :: letters =>
          match readLetters arguments (letter :: letters) with
          | .flags next => readFrom next rest
          | .stop reading => reading
          | .waiting next option =>
              match rest with
              | value :: rest =>
                  if looksLikeOption value then .rejected
                  else match next.give option value with
                    | some next => readFrom next rest
                    | .none => .rejected
              | [] => .rejected
      | _ => .rejected

/-- What the arguments of a command come to. -/
def read (arguments : List String) : Reading :=
  readFrom .none arguments

end Arguments

end BankStatement
