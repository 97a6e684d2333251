import BankStatement.Decimal.Layout
import BankStatement.Json.Tree
import BankStatement.Text.Quoted

/-!
# Reading document trees

A reader turns a tree into a value of some type, or gives the first thing that is wrong with it in
the order of the text.  Readers of containers are given how many containers may still be entered
(`depth`); the readers of their parts have been given one less.
-/

namespace BankStatement.Json

abbrev Reader (α : Type) := Tree → Result α

/-- How deep the containers of a document may be nested. -/
def nestingLimit : Nat := 127

/-- The fault of a container nested too deep, given the text from its bracket on. -/
def tooDeep (start : List Char) : DocumentError :=
  .fault ⟨.nestedTooDeep, .at start⟩

/-! ## Skipping -/

mutual

/-- Passes over a value that nobody wants. -/
def Tree.skip : Tree → Result Unit
  | .array _ items => items.skip
  | .object _ members => members.skip
  | .torn _ skip => .error (.fault skip)
  | _ => .ok ()

def Items.skip : Items → Result Unit
  | .close => .ok ()
  | .item _ value rest => do value.skip; rest.skip
  | .torn _ skip _ => .error (.fault skip)

def Members.skip : Members → Result Unit
  | .close => .ok ()
  | .member _ value rest => do value.skip; rest.skip
  | .torn _ skip => .error (.fault skip)
  | .noColon _ fault => .error (.fault fault)

end

/-! ## Scalars -/

/-- What stands in a document, in words. -/
def Number.describe : Number → String
  | .integer n => "integer `" ++ toString n ++ "`"
  | .real x => "floating point `" ++ String.ofList (Decimal.Layout.document.writeBinary64 x) ++ "`"

/-- A value where another type was expected. -/
def wrongType (expected : String) (tree : Tree) : DocumentError :=
  match tree with
  | .null => .mismatch (.wrongType "null" expected)
  | .bool b => .mismatch (.wrongType (if b then "boolean `true`" else "boolean `false`") expected)
  | .number (.ok n) => .mismatch (.wrongType n.describe expected)
  | .string (.ok s) =>
      .mismatch (.wrongType ("string " ++ String.ofList (Text.quoted s)) expected)
  | .array .. => .mismatch (.wrongType "sequence" expected)
  | .object .. => .mismatch (.wrongType "map" expected)
  | .number (.error fault) | .string (.error fault) | .torn fault _ => .fault fault

/-- A string; `expected` says what it is to write. -/
def textNamed (expected : String) : Reader String
  | .string (.ok s) => .ok (String.ofList s)
  | tree => .error (wrongType expected tree)

/-- A string. -/
def text : Reader String := textNamed "a string"

/-- An unsigned integer of 64 bits, of the type of the given name. -/
def unsigned (typeName : String) : Reader UInt64
  | .number (.ok (.integer n)) =>
      if 0 ≤ n ∧ n < Nat.pow 2 64 then .ok (UInt64.ofNat n.toNat)
      else .error (.mismatch (.wrongInteger n typeName))
  | tree => .error (wrongType typeName tree)

/-- Any number. -/
def real : Reader Binary64
  | .number (.ok (.integer n)) => .ok (.ofInt n)
  | .number (.ok (.real x)) => .ok x
  | tree => .error (wrongType "f64" tree)

/-- A value or `null`. -/
def optional {α : Type} (reader : Reader α) : Reader (Option α)
  | .null => .ok none
  | tree => (reader tree).map some

/-! ## Lists -/

/-- The items of an array, each read by the same reader. -/
def Items.read {α : Type} (reader : Reader α) : Items → Result (List α)
  | .close => .ok []
  | .item _ value rest => do
      let head ← reader value
      let tail ← rest.read reader
      return head :: tail
  | .torn read _ _ => .error (.fault read)

/-- An array. -/
def list {α : Type} (depth : Nat) (reader : Reader α) : Reader (List α)
  | .array start items => if depth = 0 then .error (tooDeep start) else items.read reader
  | tree => .error (wrongType "a sequence" tree)

/-! ## Records -/

/-- When a field may be left out: never, in objects, or in arrays too. -/
inductive Omission where
  | never
  | inObjects
  | always
deriving DecidableEq, Repr

/-- A field of a record of type `σ`: reading it fills it in. -/
structure Slot (σ : Type) where
  name : String
  omission : Omission
  read : Tree → σ → Result σ

/-- A field with a reader for its value and a way to fill it in. -/
def Slot.of {σ α : Type} (name : String) (omission : Omission) (reader : Reader α)
    (fill : α → σ → σ) : Slot σ :=
  ⟨name, omission, fun tree record => (reader tree).map fun value => fill value record⟩

/-- A record type: its name, its fields in order, and the record whose fields are filled in.  In a
document a record is an object, or an array of its fields in order. -/
structure RecordShape (σ : Type) where
  name : String
  slots : List (Slot σ)
  blank : σ

namespace RecordShape

variable {σ : Type}

/-- Fills a record in from the members of an object.  `seen` are the names met so far; members of
other names are passed over. -/
def readMembers (shape : RecordShape σ) (record : σ) (seen : List String) :
    Members → Result (σ × List String)
  | .close => .ok (record, seen)
  | .torn read _ => .error (.fault read)
  | .noColon key fault =>
      match key with
      | .error keyFault => .error (.fault keyFault)
      | .ok key =>
          if seen.contains (String.ofList key) then
            .error (.mismatch (.duplicateField (String.ofList key)))
          else .error (.fault fault)
  | .member key value rest =>
      match key with
      | .error keyFault => .error (.fault keyFault)
      | .ok key =>
          let name := String.ofList key
          match shape.slots.find? fun slot => slot.name == name with
          | none => do
              value.skip
              readMembers shape record seen rest
          | some slot =>
              if seen.contains name then .error (.mismatch (.duplicateField name))
              else do
                let record ← slot.read value record
                readMembers shape record (name :: seen) rest

/-- The first field that was not met and may not be left out. -/
def missing? (shape : RecordShape σ) (seen : List String) : Option String :=
  (shape.slots.find? fun slot => slot.omission == .never && !seen.contains slot.name).map (·.name)

/-- Fills a record in from the items of an array; `index` is the number of the first slot. -/
def readItems (shape : RecordShape σ) (record : σ) (index : Nat) :
    List (Slot σ) → Items → Result σ
  | [], .close => .ok record
  | [], .torn _ _ surplus => .error (.fault surplus)
  | [], .item start _ _ => .error (.fault ⟨.trailingCharacters, .at start⟩)
  | slot :: slots, .close =>
      if slot.omission = .always then readItems shape record (index + 1) slots .close
      else .error (.mismatch (.wrongLength index shape.name shape.slots.length))
  | _ :: _, .torn read _ _ => .error (.fault read)
  | slot :: slots, .item _ value rest => do
      let record ← slot.read value record
      readItems shape record (index + 1) slots rest

/-- A record. -/
def read (depth : Nat) (shape : RecordShape σ) : Reader σ
  | .object start members =>
      if depth = 0 then .error (tooDeep start)
      else do
        let (record, seen) ← shape.readMembers shape.blank [] members
        match shape.missing? seen with
        | some name => .error (.mismatch (.missingField name))
        | none => return record
  | .array start items =>
      if depth = 0 then .error (tooDeep start)
      else shape.readItems shape.blank 0 shape.slots items
  | tree => .error (wrongType ("struct " ++ shape.name) tree)

end RecordShape

/-! ## Values -/

mutual

/-- Any value.  The members of an object come out in ascending order of their names, and of members
of one name the last counts. -/
def Tree.toValue (depth : Nat) : Tree → Result Value
  | .null => .ok .null
  | .bool b => .ok (.bool b)
  | .number (.ok n) => .ok (.number n)
  | .string (.ok s) => .ok (.string (String.ofList s))
  | .number (.error fault) | .string (.error fault) | .torn fault _ => .error (.fault fault)
  | .array start items =>
      match depth with
      | 0 => .error (tooDeep start)
      | depth + 1 => (items.toValues depth).map .array
  | .object start members =>
      match depth with
      | 0 => .error (tooDeep start)
      | depth + 1 => (members.toMembers depth []).map .object

def Items.toValues (depth : Nat) : Items → Result (List Value)
  | .close => .ok []
  | .item _ value rest => do
      let head ← value.toValue depth
      let tail ← rest.toValues depth
      return head :: tail
  | .torn read _ _ => .error (.fault read)

/-- The members met so far, in order, with those that follow. -/
def Members.toMembers (depth : Nat) (sofar : List (String × Value)) :
    Members → Result (List (String × Value))
  | .close => .ok sofar
  | .member key value rest =>
      match key with
      | .error fault => .error (.fault fault)
      | .ok key => do
          let value ← value.toValue depth
          rest.toMembers depth (Value.insertMember (String.ofList key) value sofar)
  | .torn read _ => .error (.fault read)
  | .noColon key fault =>
      match key with
      | .error keyFault => .error (.fault keyFault)
      | .ok _ => .error (.fault fault)

end

mutual

/-- The tree of a value. -/
def Tree.ofValue : Value → Tree
  | .null => .null
  | .bool b => .bool b
  | .number n => .number (.ok n)
  | .string s => .string (.ok s.toList)
  | .array items => .array [] (Items.ofValues items)
  | .object members => .object [] (Members.ofMembers members)

def Items.ofValues : List Value → Items
  | [] => .close
  | value :: rest => .item [] (Tree.ofValue value) (Items.ofValues rest)

def Members.ofMembers : List (String × Value) → Members
  | [] => .close
  | (key, value) :: rest =>
      .member (.ok key.toList) (Tree.ofValue value) (Members.ofMembers rest)

end

mutual

/-- How deep the containers of a value are nested. -/
def Value.nesting : Value → Nat
  | .array items => nestingOfItems items + 1
  | .object members => nestingOfMembers members + 1
  | _ => 0

def Value.nestingOfItems : List Value → Nat
  | [] => 0
  | value :: rest => max value.nesting (nestingOfItems rest)

def Value.nestingOfMembers : List (String × Value) → Nat
  | [] => 0
  | (_, value) :: rest => max value.nesting (nestingOfMembers rest)

end

/-- The value that a text writes. -/
def Value.ofText (text : String) : Result Value :=
  (Document.ofText text.toList).read (Tree.toValue nestingLimit)

end BankStatement.Json
