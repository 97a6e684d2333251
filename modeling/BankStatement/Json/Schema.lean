import BankStatement.Json.Printer

/-!
# Schemas of documents

A schema constrains document values keyword by keyword; a keyword for one type of values says
nothing about others.  Every violation is reported.  Schemas may refer to named definitions wherever
a part of a value is described.
-/

namespace BankStatement.Json

/-! ## Types -/

/-- The types of values.  Integers are also those numbers that have no fraction. -/
inductive ValueType where
  | array
  | boolean
  | integer
  | null
  | number
  | object
  | string
deriving DecidableEq, Repr

namespace ValueType

def name : ValueType → String
  | array => "array"
  | boolean => "boolean"
  | integer => "integer"
  | null => "null"
  | number => "number"
  | object => "object"
  | string => "string"

/-- The types in the order of their names. -/
def all : List ValueType := [array, boolean, integer, null, number, object, string]

def ofName? (name : String) : Option ValueType :=
  all.find? fun type => type.name == name

end ValueType

/-- Whether a number has no fraction. -/
def Number.isWhole : Number → Bool
  | .integer _ => true
  | .real x => x.isFinite && Binary64.units x.magnitude % Binary64.unitsPerOne == 0

/-- A number in units of `2 ^ -1074`. -/
def Number.inUnits : Number → Int
  | .integer n => n * Binary64.unitsPerOne
  | .real x => x.signedUnits

/-- Whether a value has a type. -/
def Value.hasType : Value → ValueType → Bool
  | .null, .null => true
  | .bool _, .boolean => true
  | .number _, .number => true
  | .number n, .integer => n.isWhole
  | .string _, .string => true
  | .array _, .array => true
  | .object _, .object => true
  | _, _ => false

/-! ## Schemas -/

/-- A schema.  `keywords` has the types of which a value must have one, unless there are none, the
least number, the least length of strings, the members that objects need, the schemas for the first
items of arrays and for all others, and the schemas for the members of objects. -/
inductive Schema where
  | anything
  | nothing
  | reference (name : String)
  | keywords (types : List ValueType) (minimum : Option Number) (minLength : Option Nat)
      (required : List String) (first : List Schema) (items : Option Schema)
      (properties : List (String × Schema))

/-- What a value violates. -/
inductive Violation where
  | forbidden (value : Value)
  | wrongType (value : Value) (types : List ValueType)
  | belowMinimum (n minimum : Number)
  | tooShort (text : String) (minLength : Nat)
  | missing (name : String)

namespace Violation

/-- A name in quotes. -/
def quotedName (name : String) : String :=
  "\"" ++ name ++ "\""

def message : Violation → String
  | forbidden value => "False schema does not allow " ++ value.toText
  | wrongType value types =>
      match types with
      | [type] => value.toText ++ " is not of type " ++ quotedName type.name
      | types =>
          value.toText ++ " is not of types " ++
            ", ".intercalate (types.map fun type => quotedName type.name)
  | belowMinimum n minimum =>
      String.ofList n.print ++ " is less than the minimum of " ++ String.ofList minimum.print
  | tooShort text minLength =>
      String.ofList (printString text.toList) ++ " is shorter than " ++ toString minLength ++
        (if minLength = 1 then " character" else " characters")
  | missing name => String.ofList (printString name.toList) ++ " is a required property"

end Violation

namespace Schema

/-- The schemas that others refer to by name. -/
abbrev Definitions := List (String × Schema)

/-- The schema that a reference stands for. -/
def resolve (definitions : Definitions) : Schema → Schema
  | reference name =>
      match definitions.find? fun entry => entry.1 == name with
      | some entry => entry.2
      | none => anything
  | schema => schema

/-- What a value violates by itself, its items and members aside. -/
def ownViolations (schema : Schema) (value : Value) : List Violation :=
  match schema with
  | anything | reference _ => []
  | nothing => [.forbidden value]
  | keywords types minimum minLength required _ _ _ =>
      (if types = [] ∨ types.any value.hasType then [] else [.wrongType value types]) ++
      match value with
      | .number n =>
          match minimum with
          | some least => if n.inUnits < least.inUnits then [.belowMinimum n least] else []
          | none => []
      | .string text =>
          match minLength with
          | some least => if text.length < least then [.tooShort text least] else []
          | none => []
      | .object members =>
          (required.filter fun name => (Value.lookup name members).isNone).map .missing
      | _ => []

/-- The schemas of the first items. -/
def firstSchemas : Schema → List Schema
  | keywords _ _ _ _ first _ _ => first
  | _ => []

/-- The schema of the items after the first ones. -/
def itemSchema : Schema → Schema
  | keywords _ _ _ _ _ (some items) _ => items
  | _ => anything

/-- The schema of a member. -/
def memberSchema (name : String) : Schema → Schema
  | keywords _ _ _ _ _ _ properties =>
      match properties.find? fun entry => entry.1 == name with
      | some entry => entry.2
      | none => anything
  | _ => anything

mutual

/-- Everything that a value violates. -/
def violations (definitions : Definitions) (schema : Schema) : Value → List Violation
  | .array items =>
      (resolve definitions schema).ownViolations (.array items) ++
        itemViolations definitions (resolve definitions schema).firstSchemas
          (resolve definitions schema).itemSchema items
  | .object members =>
      (resolve definitions schema).ownViolations (.object members) ++
        memberViolations definitions (resolve definitions schema) members
  | value => (resolve definitions schema).ownViolations value

/-- What items violate, the first of them by schemas of their own. -/
def itemViolations (definitions : Definitions) (first : List Schema) (others : Schema) :
    List Value → List Violation
  | [] => []
  | value :: rest =>
      violations definitions (first.headD others) value ++
        itemViolations definitions first.tail others rest

def memberViolations (definitions : Definitions) (schema : Schema) :
    List (String × Value) → List Violation
  | [] => []
  | (name, value) :: rest =>
      violations definitions (schema.memberSchema name) value ++
        memberViolations definitions schema rest

end

/-! ## Schemas in documents -/

/-- A value that has to be a list of different strings. -/
def distinctStrings? : List Value → Option (List String)
  | [] => some []
  | .string s :: rest =>
      match distinctStrings? rest with
      | some strings => if strings.contains s then none else some (s :: strings)
      | none => none
  | _ :: _ => none

/-- The types that a `type` keyword allows, in the order of their names. -/
def types? : Option Value → Option (List ValueType)
  | none => some []
  | some (.string name) => (ValueType.ofName? name).map ([·])
  | some (.array (first :: rest)) =>
      match distinctStrings? (first :: rest) with
      | some names =>
          (names.mapM ValueType.ofName?).map fun types => ValueType.all.filter types.contains
      | none => none
  | some _ => none

def minimum? : Option Value → Option (Option Number)
  | none => some none
  | some (.number n) => some (some n)
  | some _ => none

/-- A least length is a whole number from zero on. -/
def minLength? : Option Value → Option (Option Nat)
  | none => some none
  | some (.number n) =>
      if n.isWhole ∧ 0 ≤ n.inUnits then some (some (n.inUnits.toNat / Binary64.unitsPerOne))
      else none
  | some _ => none

def required? : Option Value → Option (List String)
  | none => some []
  | some (.array items) => distinctStrings? items
  | some _ => none

mutual

/-- The schema that a value writes, if it is one.  Keywords other than those of `Schema` are passed
over. -/
def ofValue? : Value → Option Schema
  | .bool true => some anything
  | .bool false => some nothing
  | .object members =>
      match types? (Value.lookup "type" members), minimum? (Value.lookup "minimum" members),
          minLength? (Value.lookup "minLength" members),
          required? (Value.lookup "required" members), items? members, properties? members with
      | some types, some minimum, some minLength, some required, some (first, items),
          some properties =>
        some (keywords types minimum minLength required first items properties)
      | _, _, _, _, _, _ => none
  | _ => none

/-- The schemas of an `items` keyword among the members of a schema.  A schema is for all items, and
an array of at least one schema is for the first ones. -/
def items? : List (String × Value) → Option (List Schema × Option Schema)
  | [] => some ([], none)
  | (name, value) :: rest =>
      if name = "items" then
        ((ofValue? value).map fun schema => ([], some schema)).or <|
          match value with
          | .array (schema :: more) => (schemas? (schema :: more)).map fun first => (first, none)
          | _ => none
      else items? rest

def schemas? : List Value → Option (List Schema)
  | [] => some []
  | value :: rest =>
      match ofValue? value, schemas? rest with
      | some schema, some more => some (schema :: more)
      | _, _ => none

/-- The schemas of a `properties` keyword among the members of a schema. -/
def properties? : List (String × Value) → Option (List (String × Schema))
  | [] => some []
  | (name, value) :: rest =>
      if name = "properties" then
        match value with
        | .object members => memberSchemas? members
        | _ => none
      else properties? rest

def memberSchemas? : List (String × Value) → Option (List (String × Schema))
  | [] => some []
  | (name, value) :: rest =>
      match ofValue? value, memberSchemas? rest with
      | some schema, some schemas => some ((name, schema) :: schemas)
      | _, _ => none

end

end Schema

end BankStatement.Json
